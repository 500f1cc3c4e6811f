import A3sBox.Build.CacheTransparency
import A3sBox.Image.Layers

/-!
# The content of a layer

`extract_layer` of `oci/layers.rs` tells from the first bytes of a layer how it is compressed; `compute_diff_id` of
`oci/build/engine/utils.rs` takes every layer for gzip.

## The model

The decoders of `flate2` and `zstd` are parameters, and so is what `tar` reads from an archive. A decoder gives bytes,
and an end or an error after them; `extract_layer` may stop before that.

`diffId_right_iff` says which layers are hashed right; `plain_layer_refused` is one that is not.
-/

namespace A3sBox.Build

open Image PosixFs

/-- What a reader gives: bytes, and the error they end with, if it is one. -/
structure Content where
  bytes : List UInt8
  error : Option String
  deriving DecidableEq

/-- How gzip begins. -/
def gzipMagic : List UInt8 := [0x1f, 0x8b]

/-- How zstd begins. -/
def zstdMagic : List UInt8 := [0x28, 0xb5, 0x2f, 0xfd]

/-- The readers of what is compressed. -/
structure Decoders where
  gzip : List UInt8 → Content
  /-- It may fail before anything is read. -/
  zstd : List UInt8 → Except String Content
  /-- What does not begin as gzip does is refused. -/
  header : ∀ blob, ¬ gzipMagic <+: blob → (gzip blob).error ≠ none

/-- The reader that `extract_layer` chooses. -/
def Decoders.content (decoders : Decoders) (layerText : String) (blob : List UInt8) : Except BoxError Content :=
  if gzipMagic <+: blob then .ok (decoders.gzip blob)
  else if zstdMagic <+: blob then
    (decoders.zstd blob).mapError fun e => .ociImageError s!"Failed to init zstd decoder for {layerText}: {e}"
  else .ok ⟨blob, none⟩

variable {E F D L : Type}

/-- `extract_layer`, of a file that can be read. -/
def Decoders.extractLayer (decoders : Decoders)
    (entries : Content → Except String (List (Except Unreadable (TarEntry E)))) (tar : Tar E F D L) (target : Location)
    (layerText targetText : String) (fs : Fs F D L) (blob : List UInt8) : Fs F D L × Except BoxError Unit :=
  match decoders.content layerText blob with
  | .error e => (fs, .error e)
  | .ok content =>
    match entries content with
    | .error e => (fs, .error (.ociImageError s!"Failed to read layer entries: {e}"))
    | .ok found => Image.extractLayer tar target targetText fs found

/-- The hash of the archive in a layer. -/
def Decoders.computeDiffId (decoders : Decoders) (sha : Sha256) (blob : List UInt8) : Except BoxError String :=
  match decoders.gzip blob with
  | ⟨bytes, none⟩ => .ok (sha.digest bytes)
  | ⟨_, some e⟩ => .error (.buildError s!"Failed to decompress layer for diff_id: {e}")

variable {decoders : Decoders} {entries : Content → Except String (List (Except Unreadable (TarEntry E)))}
  {tar : Tar E F D L} {target : Location} {layerText targetText : String} {fs : Fs F D L} {blob : List UInt8}

theorem extractLayer_ok (h : (decoders.extractLayer entries tar target layerText targetText fs blob).2 = .ok ()) :
    ∃ content found, decoders.content layerText blob = .ok content ∧ entries content = .ok found := by
  unfold Decoders.extractLayer at h
  split at h
  · cases h
  next content hcontent =>
    split at h
    · cases h
    next found hfound => exact ⟨content, found, hcontent, hfound⟩

theorem computeDiffId_ok {sha diffId} : decoders.computeDiffId sha blob = .ok diffId ↔
      (decoders.gzip blob).error = none ∧ sha.digest (decoders.gzip blob).bytes = diffId := by
  unfold Decoders.computeDiffId
  split
  next hgzip => simp [hgzip]
  next hgzip => simp [hgzip]

/-- **Of an accepted layer, the archive that was unpacked is hashed exactly if it is gzip, without an error up to its
end.** -/
theorem diffId_right_iff (sha : Sha256)
    (haccepted : (decoders.extractLayer entries tar target layerText targetText fs blob).2 = .ok ()) :
    ∃ content found, decoders.content layerText blob = .ok content ∧ entries content = .ok found ∧
      (decoders.computeDiffId sha blob = .ok (sha.digest content.bytes) ↔
        gzipMagic <+: blob ∧ (decoders.gzip blob).error = none) := by
  obtain ⟨content, found, hcontent, hfound⟩ := extractLayer_ok haccepted
  refine ⟨content, found, hcontent, hfound, ?_⟩
  rw [computeDiffId_ok]
  constructor
  · rintro ⟨hsound, -⟩
    have hmagic : gzipMagic <+: blob := by
      by_contra hother
      exact decoders.header blob hother hsound
    exact ⟨hmagic, hsound⟩
  · rintro ⟨hmagic, hsound⟩
    rw [Decoders.content, if_pos hmagic] at hcontent
    cases hcontent
    exact ⟨hsound, rfl⟩

/-- A number whose lowest byte comes first. -/
def lowFirst (bytes : List UInt8) : ℕ := bytes.foldr (fun byte n => byte.toNat + 256 * n) 0

/-- The checksum of gzip. -/
def crc32 (bytes : List UInt8) : BitVec 32 :=
  let shift (crc : BitVec 32) := if crc.getLsbD 0 then crc >>> 1 ^^^ 0xedb88320#32 else crc >>> 1
  ~~~ bytes.foldl (fun crc byte => shift^[8] (crc ^^^ byte.toBitVec.setWidth 32)) (BitVec.allOnes 32)

/-- Read a gzip file of one stored block: after ten bytes of header come the length of the block, twice, its bytes,
their checksum and their number. -/
def inflateStored (blob : List UInt8) : Content :=
  let size := lowFirst ((blob.drop 11).take 2)
  let bytes := (blob.drop 15).take size
  let trailer := blob.drop (15 + size)
  if ¬ gzipMagic <+: blob then ⟨[], some "invalid gzip header"⟩
  else if blob[2]? ≠ some 8 ∨ blob[3]? ≠ some 0 ∨ blob[10]? ≠ some 1 ∨
      size + lowFirst ((blob.drop 13).take 2) ≠ 65535 then ⟨[], some "corrupt deflate stream"⟩
  else if trailer.length < 8 then ⟨bytes, some "unexpected end of file"⟩
  else if lowFirst (trailer.take 4) = (crc32 bytes).toNat ∧ lowFirst ((trailer.drop 4).take 4) = size then ⟨bytes, none⟩
  else ⟨bytes, some "corrupt gzip stream does not have a matching checksum"⟩

/-- A reader of stored gzip files, and none of zstd. -/
def storedDecoders : Decoders where
  gzip := inflateStored
  zstd _ := .error "not supported"
  header blob hother := by simp [inflateStored, hother]

/-- Every byte is an entry, and unpacking it changes nothing. -/
def extractBytes (blob : List UInt8) : Fs Unit Unit Unit × Except BoxError Unit :=
  storedDecoders.extractLayer (fun content => .ok (content.bytes.map fun byte => .ok ⟨⟨false, [.name [byte]]⟩, ()⟩))
    ⟨fun _ fs (_ : TarEntry Unit) => (fs, .ok ())⟩ [] "layer" "/rootfs" (fun _ => none) blob

/-- The file that `gzip` makes of the letter `a` without compressing it. -/
def gzipA : List UInt8 :=
  [0x1f, 0x8b, 8, 0, 0, 0, 0, 0, 0, 255, 1, 1, 0, 0xfe, 0xff, 97, 0x43, 0xbe, 0xb7, 0xe8, 1, 0, 0, 0]

theorem gzip_layer_hashed : (extractBytes gzipA).2 = .ok () ∧
      storedDecoders.computeDiffId allBytes gzipA = .ok (allBytes.digest [97]) := by
  have hread : storedDecoders.gzip gzipA = ⟨[97], none⟩ := by decide +kernel
  have hcontent : storedDecoders.content "layer" gzipA = .ok ⟨[97], none⟩ := by
    rw [Decoders.content, if_pos (by decide), hread]
  have haccepted : (extractBytes gzipA).2 = .ok () := by
    rw [extractBytes, Decoders.extractLayer, hcontent]
    rfl
  obtain ⟨content, _, hfound, -, hright⟩ := diffId_right_iff allBytes haccepted
  obtain rfl : ⟨[97], none⟩ = content := Except.ok.inj (hcontent.symm.trans hfound)
  exact ⟨haccepted, hright.mpr ⟨by decide, by rw [hread]⟩⟩

/-- A layer that is not compressed is unpacked, and cannot be hashed. -/
theorem plain_layer_refused : (extractBytes [97]).2 = .ok () ∧ storedDecoders.content "layer" [97] = .ok ⟨[97], none⟩ ∧
      storedDecoders.computeDiffId allBytes [97] =
        .error (.buildError "Failed to decompress layer for diff_id: invalid gzip header") :=
  ⟨rfl, rfl, rfl⟩

end A3sBox.Build
