import A3sBox.Core.Error
import A3sBox.Library.DirTree
import A3sBox.Library.Totals

/-!
# The image store

`runtime/src/oci/store.rs`: layouts are kept on disk, a directory `sha256/<digest>` for each digest, with an index
from references to images in memory and in `index.json`.

## The model

A digest is meant to be a single path component (`PlainDigest`). A layout is a tree of files. A copy may be
interrupted after any operation, and leaves what it has copied. Writing `index.json` does not fail, and the calls run
one after the other.

`image_store_consistent`: every image in the index has a complete layout if no `put` meets what an interrupted copy
has left; otherwise `interrupted_put_indexed`.
-/

namespace A3sBox.Image

open DirTree List Option

/-! ### The store -/

/-- A stored image. Times are in the order of the clock. -/
structure StoredImage where
  /-- The reference, such as `docker.io/library/ubuntu:22.04`. -/
  reference : String
  digest : String
  sizeBytes : ℕ
  pulledAt : ℕ
  lastUsed : ℕ
  path : String
  deriving DecidableEq, Repr

/-- The images by reference. -/
abbrev Index := AList (fun _ : String => StoredImage)

/-- The directories under `sha256/`. -/
abbrev Dirs := AList (fun _ : String => Dir)

variable (index : Index)

/-- The images of an index. -/
def Index.images : List StoredImage := index.entries.map (·.2)

/-- The image store: its index in memory, and its part of the disk. -/
structure ImageStore where
  index : Index
  dirs : Dirs
  indexJson : Option (List StoredImage)
  maxSizeBytes : ℕ

/-- The name of the directory of a digest. -/
def digestHex (digest : String) : String :=
  if "sha256:".toList <+: digest.toList then String.ofList (digest.toList.drop 7) else digest

/-- The loop of `load_index`: only images whose directories still exist are included. -/
def loadImages (dirs : Dirs) : Index → List StoredImage → Index
  | index, [] => index
  | index, image :: images =>
    loadImages dirs (if image.path ∈ dirs then index.insert image.reference image else index) images

/-- The index in the file. -/
def loadIndex (dirs : Dirs) : Option (List StoredImage) → Index
  | none => ∅
  | some images => loadImages dirs ∅ images

/-- `ImageStore::new`, on the disk that is there. -/
def ImageStore.new (dirs : Dirs) (indexJson : Option (List StoredImage)) (maxSizeBytes : ℕ) : ImageStore :=
  ⟨loadIndex dirs indexJson, dirs, indexJson, maxSizeBytes⟩

/-- `save_index_inner`. -/
def ImageStore.saveIndexInner (store : ImageStore) : ImageStore :=
  { store with indexJson := some store.index.images }

/-- Get an image by its reference, and note when it was used. -/
def ImageStore.get (store : ImageStore) (reference : String) (now : ℕ) : ImageStore × Option StoredImage :=
  match store.index.lookup reference with
  | none => (store, none)
  | some image =>
    let updated := { image with lastUsed := now }
    ({ store with index := store.index.insert reference updated }.saveIndexInner, some updated)

/-- Whether an image under another reference has the digest. -/
def Index.stillReferenced (reference digest : String) : Bool :=
  index.entries.any fun e => e.1 ≠ reference && e.2.digest == digest

/-- What `put` does to the index under the lock. An image that loses its last reference is kept under its
digest. -/
def Index.record (stored : StoredImage) : Index :=
  let kept : Index :=
    match index.lookup stored.reference with
    | none => index
    | some old =>
      if old.digest ≠ stored.digest then
        if !index.stillReferenced stored.reference old.digest && old.digest ∉ index then
          index.insert old.digest { old with reference := old.digest }
        else index
      else index
  kept.insert stored.reference stored

/-- The directories after the copy of `put`. There is no copy if the directory of the digest exists. -/
def Dirs.ensure (dirs : Dirs) (digest : String) (source : Dir) (interrupt : Interrupt) : Dirs × Except String Unit :=
  if digestHex digest ∈ dirs then (dirs, .ok ())
  else
    match copy source interrupt with
    | (none, result) => (dirs, result)
    | (some copied, result) => (dirs.insert (digestHex digest) copied, result)

/-- The image that `put` records. -/
def Dirs.describe (dirs : Dirs) (reference digest : String) (now : ℕ) : StoredImage :=
  { reference, digest, sizeBytes := ((dirs.lookup (digestHex digest)).map Dir.size).getD 0,
    pulledAt := now, lastUsed := now, path := digestHex digest }

/-- Store an image. -/
def ImageStore.put (store : ImageStore) (reference digest : String) (source : Dir) (interrupt : Interrupt)
    (now : ℕ) : ImageStore × Except BoxError StoredImage :=
  match store.dirs.ensure digest source interrupt with
  | (dirs, .error e) => ({ store with dirs }, .error (.ociImageError s!"Failed to copy image to store: {e}"))
  | (dirs, .ok ()) =>
    let stored := dirs.describe reference digest now
    ({ store with dirs, index := store.index.record stored }.saveIndexInner, .ok stored)

/-- The references that `remove` takes out: `image` itself if it is one, or else all with that digest. -/
def Index.keysOf (image : String) : List String :=
  if image ∈ index then [image]
  else (index.images.filter (·.digest == image)).map (·.reference)

/-- Take references out of the index, one after the other: the images that were there, and what is left. -/
def Index.takeKeys (index : Index) : List String → List StoredImage × Index
  | [] => ([], index)
  | key :: keys =>
    match index.lookup key with
    | none => index.takeKeys keys
    | some image =>
      let (removed, left) := Index.takeKeys (index.erase key) keys
      (image :: removed, left)

/-- What `remove` takes out of the index and what is left, or none if there is no such image. -/
def Index.withdraw (image : String) : Option (List StoredImage × Index) :=
  match index.keysOf image with
  | [] => none
  | keys => some (index.takeKeys keys)

/-- Delete the directories of removed images whose digests no image of the index has. -/
def Dirs.deleteUnused (dirs : Dirs) (index : Index) : List StoredImage → Dirs
  | [] => dirs
  | image :: removed =>
    if index.images.any (·.digest == image.digest) then Dirs.deleteUnused dirs index removed
    else Dirs.deleteUnused (dirs.erase image.path) index removed

variable (store : ImageStore)

/-- Remove an image by its reference, or by its digest. -/
def ImageStore.remove (image : String) : ImageStore × Except BoxError Unit :=
  match store.index.withdraw image with
  | none => (store, .error (.ociImageError s!"Image not found: {image}"))
  | some (removed, index) =>
    ({ store with index, dirs := store.dirs.deleteUnused index removed }.saveIndexInner, .ok ())

/-- The size of all images. -/
def ImageStore.totalSize : ℕ := (store.index.images.map (·.sizeBytes)).sum

/-- The image that was used longest ago. -/
def leastRecentlyUsed : List StoredImage → Option StoredImage
  | [] => none
  | image :: images =>
    match leastRecentlyUsed images with
    | none => some image
    | some lru => if image.lastUsed ≤ lru.lastUsed then some image else some lru

/-- The loop of `evict`, for at most `fuel` images. -/
def ImageStore.evictLoop : ℕ → ImageStore → ImageStore × Except BoxError (List String)
  | 0, store => (store, .ok [])
  | fuel + 1, store =>
    if store.maxSizeBytes < store.totalSize then
      match leastRecentlyUsed store.index.images with
      | none => (store, .ok [])
      | some lru =>
        match store.remove lru.reference with
        | (store', .error e) => (store', .error e)
        | (store', .ok ()) =>
          let (store'', evicted) := evictLoop fuel store'
          (store'', evicted.map (lru.reference :: ·))
    else (store, .ok [])

/-- Evict the least recently used images until the others fit, in no more rounds than there are images. -/
def ImageStore.evict : ImageStore × Except BoxError (List String) :=
  store.evictLoop store.index.entries.length

/-! ### Runs -/

/-- A call on the store. -/
inductive Op where
  | put (reference digest : String) (source : Dir) (interrupt : Interrupt) (now : ℕ)
  | get (reference : String) (now : ℕ)
  | remove (image : String)
  | evict
  /-- The store is opened again. -/
  | reload

/-- The store after a call. -/
def ImageStore.apply : Op → ImageStore
  | .put reference digest source interrupt now => (store.put reference digest source interrupt now).1
  | .get reference now => (store.get reference now).1
  | .remove image => (store.remove image).1
  | .evict => store.evict.1
  | .reload => .new store.dirs store.indexJson store.maxSizeBytes

/-- The digest and the layout of a `put`, if it succeeds. -/
def ImageStore.succeeded : Op → List (String × Dir)
  | .put reference digest source interrupt now =>
    match (store.put reference digest source interrupt now).2 with
    | .ok _ => [(digest, source)]
    | .error _ => []
  | _ => []

/-- `Run ok store puts`: calls that meet `ok` lead from an empty store to `store`, and `puts` are the digests and
layouts of the successful `put`s. -/
inductive Run (ok : ImageStore → Op → Prop) : ImageStore → List (String × Dir) → Prop where
  | new (maxSizeBytes : ℕ) : Run ok (.new ∅ none maxSizeBytes) []
  | step {store puts} (op : Op) :
      Run ok store puts → ok store op → Run ok (store.apply op) (store.succeeded op ++ puts)

/-- An image is stored under its own reference, and its directory holds the layout of a successful `put` of its digest.
-/
def Sound (dirs : Dirs) (puts : List (String × Dir)) (key : String) (image : StoredImage) : Prop :=
  image.reference = key ∧ ∃ layout, dirs.lookup image.path = some layout ∧ (image.digest, layout) ∈ puts

/-- Every image in the index is sound. -/
def ImageStore.Consistent (store : ImageStore) (puts : List (String × Dir)) : Prop :=
  ∀ key image, store.index.lookup key = some image → Sound store.dirs puts key image

/-- The digest is `sha256:` and a single path component. -/
def PlainDigest (digest : String) : Prop :=
  "sha256:".toList <+: digest.toList ∧ '/' ∉ (digestHex digest).toList ∧ digestHex digest ∉ ["", ".", ".."]

/-- No `put` meets a leftover: its digest is plain, and if its directory exists then an image in the index has it. -/
def NoLeftover (store : ImageStore) : Op → Prop
  | .put _ digest _ _ _ =>
    PlainDigest digest ∧
      (digestHex digest ∈ store.dirs → ∃ key image, store.index.lookup key = some image ∧ image.path = digestHex digest)
  | _ => True

theorem digestHex_inj {d d'} (h : "sha256:".toList <+: d.toList) (h' : "sha256:".toList <+: d'.toList)
    (heq : digestHex d = digestHex d') : d = d' := by
  rw [digestHex, digestHex, if_pos h, if_pos h'] at heq
  obtain ⟨_, ht⟩ := h
  obtain ⟨_, ht'⟩ := h'
  have hdrop : ∀ {u : List Char} {x : String}, "sha256:".toList ++ u = x.toList → x.toList.drop 7 = u :=
    fun hx => by rw [← hx]; rfl
  have hlist := String.ofList_injective heq
  rw [hdrop ht, hdrop ht'] at hlist
  apply String.toList_injective
  rw [← ht, ← ht', hlist]

/-! ### What each call does -/

variable {index : Index} {image : StoredImage} {dirs : Dirs} {digest key reference : String} {source : Dir}
  {interrupt : Interrupt} {keys : List String} {removed : List StoredImage}

theorem mem_images : image ∈ index.images ↔ ∃ key, index.lookup key = some image := by
  constructor
  · intro h
    obtain ⟨⟨key, _⟩, hmem, rfl⟩ := mem_map.1 h
    exact ⟨key, AList.mem_lookup_iff.2 hmem⟩
  · rintro ⟨key, h⟩
    exact mem_map.2 ⟨⟨key, image⟩, AList.mem_lookup_iff.1 h, rfl⟩

variable {path : String} {left : Index} {images : List StoredImage}

/-- The copy of `put` leaves a directory that exists as it is. -/
theorem ensure_lookup {layout} (h : dirs.lookup path = some layout) :
    (dirs.ensure digest source interrupt).1.lookup path = some layout := by
  by_cases hmem : digestHex digest ∈ dirs
  · rw [Dirs.ensure, if_pos hmem]
    exact h
  · have hne : path ≠ digestHex digest := by
      rintro rfl
      exact hmem (AList.lookup_isSome.1 (by rw [h]; rfl))
    rw [Dirs.ensure, if_neg hmem]
    split
    · exact h
    · rw [AList.lookup_insert_ne hne]
      exact h

/-- After the copy of a `put` that goes on, the directory was there before or is complete. -/
theorem ensure_ok (h : (dirs.ensure digest source interrupt).2 = .ok ()) : digestHex digest ∈ dirs ∨
      (dirs.ensure digest source interrupt).1.lookup (digestHex digest) = some source := by
  by_cases hmem : digestHex digest ∈ dirs
  · exact .inl hmem
  · right
    rw [Dirs.ensure, if_neg hmem] at h ⊢
    rcases hc : copy source interrupt with ⟨_ | _, _⟩
    · rw [hc] at h
      have := copy_ok ((congrArg Prod.snd hc).trans h)
      simp [hc] at this
    · rw [hc] at h
      have hcopied := copy_ok ((congrArg Prod.snd hc).trans h)
      rw [AList.lookup_insert, ← hcopied, hc]

theorem record_lookup {stored} (h : (index.record stored).lookup key = some image) :
    (key = stored.reference ∧ image = stored) ∨ index.lookup key = some image ∨
      ∃ old, index.lookup stored.reference = some old ∧ key = old.digest ∧
        image = { old with reference := old.digest } := by
  rcases Totals.lookup_of_insert h with ⟨rfl, rfl⟩ | ⟨-, h⟩
  · exact .inl ⟨rfl, rfl⟩
  · right
    split at h
    · exact .inl h
    next old hold =>
      split_ifs at h
      · rcases Totals.lookup_of_insert h with ⟨rfl, rfl⟩ | ⟨-, h⟩
        · exact .inr ⟨old, hold, rfl, rfl⟩
        · exact .inl h
      · exact .inl h
      · exact .inl h

theorem takeKeys_left (h : (index.takeKeys keys).2.lookup key = some image) : index.lookup key = some image := by
  induction keys generalizing index with
  | nil => exact h
  | cons _ _ ih =>
    rw [Index.takeKeys] at h
    split at h
    · exact ih h
    · exact Totals.lookup_of_erase (ih h)

theorem takeKeys_removed (h : image ∈ (index.takeKeys keys).1) : ∃ key ∈ keys, index.lookup key = some image := by
  induction keys generalizing index with
  | nil => exact absurd h not_mem_nil
  | cons k _ ih =>
    rw [Index.takeKeys] at h
    split at h
    · obtain ⟨key, hmem, hkey⟩ := ih h
      exact ⟨key, mem_cons_of_mem _ hmem, hkey⟩
    next image' hk =>
      rcases mem_cons.1 h with rfl | h
      · exact ⟨k, mem_cons_self, hk⟩
      · obtain ⟨key, hmem, hkey⟩ := ih h
        exact ⟨key, mem_cons_of_mem _ hmem, Totals.lookup_of_erase hkey⟩

theorem takeKeys_other (h : key ∉ keys) : (index.takeKeys keys).2.lookup key = index.lookup key := by
  induction keys generalizing index with
  | nil => rfl
  | cons k keys ih =>
    have hne : key ≠ k := fun heq => h (mem_cons.2 (.inl heq))
    have hkeys : key ∉ keys := fun hmem => h (mem_cons_of_mem _ hmem)
    rw [Index.takeKeys]
    split
    · exact ih hkeys
    · exact (ih hkeys).trans (AList.lookup_erase_ne hne)

/-- What `remove` takes out and leaves. -/
structure Withdrawn (index : Index) (image : String) (removed : List StoredImage) (left : Index) : Prop where
  of_left : ∀ {key i}, left.lookup key = some i → index.lookup key = some i
  of_removed : ∀ {i}, i ∈ removed → ∃ key ∈ index.keysOf image, index.lookup key = some i
  other : ∀ {key}, key ∉ index.keysOf image → left.lookup key = index.lookup key

theorem withdraw_spec {image} (h : index.withdraw image = some (removed, left)) :
    Withdrawn index image removed left := by
  have htake : index.takeKeys (index.keysOf image) = (removed, left) := by
    rw [Index.withdraw] at h
    split at h
    · simp at h
    · exact some.inj h
  obtain ⟨rfl, rfl⟩ := Prod.ext_iff.1 htake
  exact ⟨takeKeys_left, takeKeys_removed, takeKeys_other⟩

/-- A directory stays if every removed image that has it shares its digest with an image of the index. -/
theorem deleteUnused_lookup (h : ∀ image ∈ removed, image.path = path →
      ∃ key other, index.lookup key = some other ∧ other.digest = image.digest) :
    (dirs.deleteUnused index removed).lookup path = dirs.lookup path := by
  induction removed generalizing dirs with
  | nil => rfl
  | cons image _ ih =>
    have htail := fun image' hmem => h image' (mem_cons_of_mem _ hmem)
    rw [Dirs.deleteUnused]
    split_ifs with hused
    · exact ih htail
    · have hne : path ≠ image.path := by
        rintro rfl
        obtain ⟨key, other, hother, hdigest⟩ := h image mem_cons_self rfl
        exact hused (any_eq_true.2 ⟨other, mem_images.2 ⟨key, hother⟩, by simpa using hdigest⟩)
      rw [ih htail, AList.lookup_erase_ne hne]

theorem loadImages_lookup (h : (loadImages dirs index images).lookup key = some image) :
    index.lookup key = some image ∨ (image.reference = key ∧ image ∈ images) := by
  induction images generalizing index with
  | nil => exact .inl h
  | cons _ _ ih =>
    rcases ih h with h | ⟨hkey, hmem⟩
    · split_ifs at h
      · rcases Totals.lookup_of_insert h with ⟨rfl, rfl⟩ | ⟨-, h⟩
        · exact .inr ⟨rfl, mem_cons_self⟩
        · exact .inl h
      · exact .inl h
    · exact .inr ⟨hkey, mem_cons_of_mem _ hmem⟩

theorem loadIndex_lookup {indexJson}
    (h : (loadIndex dirs indexJson).lookup key = some image) : image.reference = key ∧ image ∈ indexJson.getD [] := by
  rcases indexJson with _ | _
  · simp [loadIndex] at h
  · rcases loadImages_lookup h with h | h
    · simp at h
    · exact h

/-! ### Eviction ends -/

variable {store : ImageStore} {puts : List (String × Dir)}

theorem remove_reference (h : reference ∈ store.index) : (store.remove reference).2 = .ok () ∧
      (store.remove reference).1.index = store.index.erase reference := by
  obtain ⟨_, himage⟩ := isSome_iff_exists.1 (AList.lookup_isSome.2 h)
  simp [ImageStore.remove, Index.withdraw, Index.keysOf, h, Index.takeKeys, himage, ImageStore.saveIndexInner]

theorem length_erase_lt (h : key ∈ index) : (index.erase key).entries.length < index.entries.length := by
  obtain ⟨_, himage⟩ := isSome_iff_exists.1 (AList.lookup_isSome.2 h)
  have hmem := AList.mem_lookup_iff.1 himage
  have hpos := length_pos_of_mem hmem
  show (List.kerase key index.entries).length < _
  rw [List.kerase, length_eraseP_of_mem hmem (by simp)]
  omega

theorem leastRecentlyUsed_mem {lru} (h : leastRecentlyUsed images = some lru) : lru ∈ images := by
  induction images with
  | nil => simp [leastRecentlyUsed] at h
  | cons _ _ ih =>
    rw [leastRecentlyUsed] at h
    split at h
    · exact mem_cons.2 (.inl (some.inj h).symm)
    next hrest =>
      split_ifs at h
      · exact mem_cons.2 (.inl (some.inj h).symm)
      · exact mem_cons_of_mem _ (ih (hrest.trans h))

/-- The loop of `evict` has no more rounds than there are images: more fuel changes nothing. -/
theorem evictLoop_fuel (hkeyed : ∀ key image, store.index.lookup key = some image → image.reference = key)
    {fuel} (hfuel : store.index.entries.length ≤ fuel) : store.evictLoop fuel = store.evictLoop (fuel + 1) := by
  induction fuel generalizing store with
  | zero =>
    have hnil : store.index.entries = [] := length_eq_zero_iff.1 (by omega)
    simp [ImageStore.evictLoop, ImageStore.totalSize, Index.images, hnil]
  | succ _ ih =>
    rw [ImageStore.evictLoop, ImageStore.evictLoop]
    split_ifs
    · split
      · rfl
      next lru hlru =>
        obtain ⟨key, hkey⟩ := mem_images.1 (leastRecentlyUsed_mem hlru)
        obtain rfl := hkeyed key lru hkey
        have hmem : lru.reference ∈ store.index := AList.lookup_isSome.1 (by rw [hkey]; rfl)
        obtain ⟨hok, hindex⟩ := remove_reference hmem
        have hlt := length_erase_lt hmem
        rcases hr : store.remove lru.reference with ⟨store', _ | ⟨⟨⟩⟩⟩
        · simp [hr] at hok
        · rw [hr] at hindex
          have hkeyed' : ∀ key image, store'.index.lookup key = some image → image.reference = key := by
            intro k image h
            rw [hindex] at h
            exact hkeyed k image (Totals.lookup_of_erase h)
          simp only [ih hkeyed' (by rw [hindex]; omega)]
    · rfl

/-! ### Every reachable store is consistent -/

/-- The image's directory is the one of its digest, and its digest starts with `sha256:`. -/
def Placed (image : StoredImage) : Prop :=
  image.path = digestHex image.digest ∧ "sha256:".toList <+: image.digest.toList

/-- What the calls preserve. -/
structure Inv (store : ImageStore) (puts : List (String × Dir)) : Prop where
  entry : ∀ key image, store.index.lookup key = some image → Sound store.dirs puts key image ∧ Placed image
  saved : ∀ image ∈ store.indexJson.getD [], Sound store.dirs puts image.reference image ∧ Placed image

/-- The images of an index are written under their references. -/
theorem Inv.saveIndexInner
    (h : ∀ key image, store.index.lookup key = some image → Sound store.dirs puts key image ∧ Placed image) :
    Inv store.saveIndexInner puts where
  entry := h
  saved image himage := by
    obtain ⟨key, hkey⟩ := mem_images.1 himage
    have hentry := h key image hkey
    rwa [← hentry.1.1] at hentry

theorem Placed.digest_eq {other} (h : Placed image) (h' : Placed other) (hpath : image.path = other.path)
    : image.digest = other.digest :=
  digestHex_inj h.2 h'.2 (h.1.symm.trans (hpath.trans h'.1))

/-- If all images are in the directories of their digests, those of the images that are left are kept. -/
theorem deleteUnused_keeps (hw : Withdrawn index reference removed left)
    (hplaced : ∀ key image, index.lookup key = some image → Placed image) (h : left.lookup key = some image) :
    (dirs.deleteUnused left removed).lookup image.path = dirs.lookup image.path := by
  apply deleteUnused_lookup
  intro other hother hpath
  obtain ⟨key', -, hkey'⟩ := hw.of_removed hother
  have hdigest := (hplaced key image (hw.of_left h)).digest_eq (hplaced key' other hkey') hpath.symm
  exact ⟨key, image, h, hdigest⟩

theorem Inv.new (maxSizeBytes : ℕ) : Inv (.new ∅ none maxSizeBytes) [] where
  entry key image h := by simp [ImageStore.new, loadIndex] at h
  saved image h := absurd h not_mem_nil

section

variable (hinv : Inv store puts)
include hinv

theorem Inv.put {now} (hok : NoLeftover store (.put reference digest source interrupt now)) :
    Inv (store.put reference digest source interrupt now).1
      (store.succeeded (.put reference digest source interrupt now) ++ puts) := by
  -- directories of images are not touched by the copy
  have hkeep : ∀ puts' key image, Sound store.dirs puts key image ∧ Placed image →
      Sound (store.dirs.ensure digest source interrupt).1 (puts' ++ puts) key image ∧ Placed image := by
    rintro puts' key image ⟨⟨hkey, layout, hdir, hmem⟩, hplaced⟩
    exact ⟨⟨hkey, layout, ensure_lookup hdir, mem_append_right _ hmem⟩, hplaced⟩
  have hensure := @ensure_ok store.dirs digest source interrupt
  rw [ImageStore.succeeded, ImageStore.put]
  rcases he : store.dirs.ensure digest source interrupt with ⟨_, _ | ⟨⟨⟩⟩⟩
  · rw [he] at hkeep
    exact ⟨fun key image h => hkeep [] key image (hinv.entry key image h),
      fun image h => hkeep [] image.reference image (hinv.saved image h)⟩
  · rw [he] at hkeep hensure
    apply Inv.saveIndexInner
    intro key image himage
    rcases record_lookup himage with ⟨rfl, rfl⟩ | hold | ⟨old, hold, rfl, rfl⟩
    · refine ⟨⟨rfl, ?_⟩, rfl, hok.1.1⟩
      rcases hensure rfl with hmem | hcopied
      · -- the directory was there: it is the one of an image in the index, so it is complete
        obtain ⟨key, image, himage, hpath⟩ := hok.2 hmem
        obtain ⟨⟨-, layout, hdir, hput⟩, hplaced⟩ := hkeep [(digest, source)] key image (hinv.entry key image himage)
        have hdigest : image.digest = digest := digestHex_inj hplaced.2 hok.1.1 (hplaced.1.symm.trans hpath)
        rw [hpath] at hdir
        rw [hdigest] at hput
        exact ⟨layout, hdir, hput⟩
      · exact ⟨source, hcopied, mem_cons_self⟩
    · exact hkeep _ key image (hinv.entry key image hold)
    · obtain ⟨⟨-, hdir⟩, hplaced⟩ := hkeep [(digest, source)] _ old (hinv.entry _ old hold)
      exact ⟨⟨rfl, hdir⟩, hplaced⟩

theorem Inv.get (reference : String) (now : ℕ) : Inv (store.get reference now).1 puts := by
  rw [ImageStore.get]
  split
  · exact hinv
  next image himage =>
    apply Inv.saveIndexInner
    intro key image' h
    rcases Totals.lookup_of_insert h with ⟨rfl, rfl⟩ | ⟨-, h⟩
    · exact hinv.entry key image himage
    · exact hinv.entry key image' h

theorem Inv.remove (image : String) : Inv (store.remove image).1 puts := by
  rw [ImageStore.remove]
  split
  · exact hinv
  next removed left hwithdraw =>
    have hw := withdraw_spec hwithdraw
    apply Inv.saveIndexInner
    intro key image' h
    obtain ⟨⟨hkey, layout, hdir, hput⟩, hplaced⟩ := hinv.entry key image' (hw.of_left h)
    refine ⟨⟨hkey, layout, ?_, hput⟩, hplaced⟩
    exact (deleteUnused_keeps hw (fun k i hi => (hinv.entry k i hi).2) h).trans hdir

theorem Inv.evictLoop (fuel : ℕ) : Inv (store.evictLoop fuel).1 puts := by
  induction fuel generalizing store with
  | zero => exact hinv
  | succ _ ih =>
    rw [ImageStore.evictLoop]
    split_ifs
    · split
      · exact hinv
      next lru _ =>
        have hremove := hinv.remove lru.reference
        rcases hr : store.remove lru.reference with ⟨_, _ | ⟨⟨⟩⟩⟩
        · rwa [hr] at hremove
        · rw [hr] at hremove
          exact ih hremove
    · exact hinv

theorem Inv.reload : Inv (store.apply .reload) puts where
  entry key image h := by
    obtain ⟨rfl, hmem⟩ := loadIndex_lookup h
    exact hinv.saved image hmem
  saved := hinv.saved

theorem Inv.apply {op} (hok : NoLeftover store op) : Inv (store.apply op) (store.succeeded op ++ puts) := by
  cases op with
  | put => exact hinv.put hok
  | get reference now => exact hinv.get reference now
  | remove image => exact hinv.remove image
  | evict => exact hinv.evictLoop _
  | reload => exact hinv.reload

end

theorem Run.inv (hrun : Run NoLeftover store puts) : Inv store puts := by
  induction hrun with
  | new maxSizeBytes => exact Inv.new maxSizeBytes
  | step _ _ hok ih => exact ih.apply hok

/-- **The image store is consistent**, if no `put` meets a leftover: every image in the index is stored under its own
reference, and its directory holds the complete layout of a successful `put` of its digest. -/
theorem image_store_consistent (hrun : Run NoLeftover store puts) : store.Consistent puts :=
  fun key image h => (hrun.inv.entry key image h).1

/-- A layout. -/
def sampleLayout : Dir := .file "oci-layout" [123, 125] .nil

/-- A store in which one layout was put under two references, and the first was removed. -/
def sharedStore : ImageStore :=
  (((ImageStore.new ∅ none 100).apply (.put "a" "sha256:0a" sampleLayout none 1)).apply
    (.put "b" "sha256:0a" sampleLayout none 2)).apply (.remove "a")

theorem plainDigest_sample : PlainDigest "sha256:0a" := by
  refine ⟨?_, ?_, ?_⟩ <;> decide

theorem image_store_consistent_shared :
    sharedStore.Consistent [("sha256:0a", sampleLayout), ("sha256:0a", sampleLayout)] ∧
      sharedStore.index.keys = ["b"] := by
  refine ⟨image_store_consistent ?_, by decide⟩
  have hfirst : Run NoLeftover _ _ := .step (.put "a" "sha256:0a" sampleLayout none 1) (.new 100)
    ⟨plainDigest_sample, fun h => absurd h (by decide)⟩
  have hsecond : Run NoLeftover _ _ := .step (.put "b" "sha256:0a" sampleLayout none 2) hfirst
    ⟨plainDigest_sample, fun _ => ⟨"a", _, rfl, rfl⟩⟩
  exact .step (.remove "a") hsecond trivial

/-- A copy that is interrupted leaves a directory, and the next `put` of the digest takes it for the image:
the index then has an image whose layout is incomplete. -/
theorem interrupted_put_indexed : ∃ store puts, Run (fun _ _ => True) store puts ∧ ¬ store.Consistent puts := by
  have hfirst : Run (fun _ _ => True) _ _ := .step
    (.put "a" "sha256:0a" sampleLayout (some (1, "No space left on device")) 1) (.new 100) trivial
  refine ⟨_, _, .step (.put "a" "sha256:0a" sampleLayout none 2) hfirst trivial, ?_⟩
  intro h
  obtain ⟨-, layout, hdir, hmem⟩ := h "a" ⟨"a", "sha256:0a", 0, 2, 2, "0a"⟩ (by decide)
  have hempty : layout = .nil := by
    refine some.inj (hdir.symm.trans ?_)
    decide
  subst hempty
  exact absurd hmem (by decide)

end A3sBox.Image
