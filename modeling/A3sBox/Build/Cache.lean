import A3sBox.Build.Dockerfile
import Mathlib.Data.List.AList
import Mathlib.Data.List.Lex

/-!
# The build cache

`runtime/src/oci/build/cache.rs`: layers of earlier builds, found again by a key, which is the hash of the key before
it, the text of an instruction and, for COPY and ADD, the hash of the files they copy.

## The model

SHA-256 is a parameter, taken as injective. `Context` is what `std::fs` tells about the build context; a directory
that is `maxDepth` deep has too long a path to be read. Input and output of the cache do not fail.

`chain_injective`, `hashContextSources_injective`: a key tells what it is made of.
-/

namespace A3sBox.Build

open Text List Option

/-! ### Keys -/

/-- SHA-256 in hexadecimal digits, as if no two inputs had the same hash. -/
structure Sha256 where
  digest : List UInt8 → String
  /-- They are digits, in lower case. -/
  hex : ∀ bytes, ∀ c ∈ (digest bytes).toList, c ∈ "0123456789abcdef".toList
  nonempty : ∀ bytes, (digest bytes).toList ≠ []
  /-- No two inputs have the same hash. -/
  injective : Function.Injective digest

/-- The next key. -/
def chain (sha : Sha256) (prevKey instructionRepr : String) (inputHash : Option String) : String :=
  sha.digest (utf8 (prevKey ++ "\n" ++ instructionRepr ++
    match inputHash with
    | none => ""
    | some hash => "\n" ++ hash))

/-! ### Layers by key -/

/-- A layer, with what is in its file. -/
structure LayerInfo where
  blob : List UInt8
  digest : String
  size : ℕ
  deriving DecidableEq, Repr

/-- What is recorded for a key. -/
structure KeyRecord where
  digest : String
  /-- The hash of the layer without compression. -/
  diffId : String
  size : ℕ
  deriving DecidableEq, Repr

/-- A layer that is found. -/
structure CachedLayer where
  blob : List UInt8
  digest : String
  /-- The hash of the layer without compression. -/
  diffId : String
  size : ℕ
  deriving DecidableEq, Repr

/-- The cache. -/
structure BuildCache where
  /-- The files by their hash, the oldest first. -/
  blobs : List (String × List UInt8)
  keys : AList fun _ : String => KeyRecord

/-- A cache without layers. -/
def BuildCache.empty : BuildCache := ⟨[], ∅⟩

/-- The layer for a key, if its file is still there. -/
def BuildCache.lookup (cache : BuildCache) (key : String) : Option CachedLayer :=
  match cache.keys.lookup key with
  | none => none
  | some record =>
    match cache.blobs.lookup record.digest with
    | none => none
    | some blob => some ⟨blob, record.digest, record.diffId, record.size⟩

/-- Remove the oldest files while there is more than `cap` in all, which is `total`. -/
def evict (cap : ℕ) : ℕ → List (String × List UInt8) → List (String × List UInt8)
  | _, [] => []
  | total, (digest, blob) :: rest =>
    if total ≤ cap then (digest, blob) :: rest else evict cap (total - blob.length) rest

/-- Remove the oldest files until there is at most `cap` in all. -/
def BuildCache.pruneTo (cache : BuildCache) (cap : ℕ) : BuildCache :=
  { cache with blobs := evict cap (cache.blobs.map fun entry => entry.2.length).sum cache.blobs }

/-- Keep a layer under a key. -/
def BuildCache.store (cache : BuildCache) (cap : ℕ) (key : String) (layer : LayerInfo) (diffId : String) : BuildCache :=
  BuildCache.pruneTo
    { blobs := if (cache.blobs.lookup layer.digest).isSome then cache.blobs
        else cache.blobs ++ [(layer.digest, layer.blob)]
      keys := cache.keys.insert key ⟨layer.digest, diffId, layer.size⟩ } cap

/-! ### The build context -/

/-- A path in the context: a source without its leading slashes, and names below it. -/
abbrev ContextPath := List String

/-- What is at a path, links followed. -/
inductive Kind where
  | file
  | dir
  deriving DecidableEq, Repr

/-- What `std::fs` tells about the build context. -/
structure Context where
  kind : ContextPath → Option Kind
  link : ContextPath → Option String
  /-- The names in a directory, in the order in which they are read. -/
  readDir : ContextPath → Option (List String)
  read : ContextPath → Option (List UInt8)
  perm : ContextPath → ℕ
  noNul : ∀ path content, read path = some content → ∀ part ∈ path, 0 ∉ utf8 part
  /-- The size of a file fits 64 bits. -/
  sized : ∀ path content, read path = some content → content.length < 2 ^ 64

/-- A text without the slashes it begins with. -/
def trimSlashes (s : String) : String := String.ofList (s.toList.dropWhile (· == '/'))

/-- How deep a directory can be read. -/
def maxDepth : ℕ := 4096

/-- The files below a directory at `path`, with their paths below where the walk began; this one is at `rel`. -/
def collectFiles (context : Context) : ℕ → ContextPath → List String → Option (List (String × ContextPath))
  | 0, _, _ => none
  | depth + 1, path, rel => do
    let names ← context.readDir path
    let files ← names.mapM fun name =>
      if context.kind (path ++ [name]) = some .dir then collectFiles context depth (path ++ [name]) (rel ++ [name])
      else some [(join "/" (rel ++ [name]), path ++ [name])]
    some files.flatten

/-- The files of one source: the file itself, or what is below the directory. -/
def sourceFiles (context : Context) (src : String) : Option (List (String × ContextPath)) :=
  match context.kind [trimSlashes src] with
  | none => none
  | some .dir => collectFiles context maxDepth [trimSlashes src] []
  | some .file => some [(src, [trimSlashes src])]

/-- The parts of a path between its slashes. -/
def splitSlashes (path : String) : List String := (path.toList.splitOn '/').map String.ofList

/-- What paths are ordered by: the kinds and the bytes of their components. -/
def pathKey (path : String) : List (List ℕ) :=
  let parts := splitSlashes path
  (if parts.length > 1 ∧ parts.head? = some "" then [[1]] else if parts.head? = some "." then [[2]] else []) ++
    (parts.filter fun part => part ≠ "" ∧ part ≠ ".").map fun part =>
      if part = ".." then [3] else 4 :: (utf8 part).map UInt8.toNat

/-- The paths and the contents of the files of the sources, by path. -/
def hashedFiles (context : Context) (srcPatterns : List String) : Option (List (String × List UInt8)) := do
  let files ← srcPatterns.mapM (sourceFiles context)
  let sorted := files.flatten.mergeSort fun a b => decide (pathKey a.1 ≤ pathKey b.1)
  sorted.mapM fun (rel, path) => (context.read path).map fun content => (rel, content)

/-- A number in bytes, the lowest first. -/
def toLeBytes : ℕ → ℕ → List UInt8
  | 0, _ => []
  | width + 1, n => UInt8.ofNat n :: toLeBytes width (n / 256)

/-- What is hashed of a file. -/
def encodeFile (file : String × List UInt8) : List UInt8 :=
  utf8 file.1 ++ [0] ++ toLeBytes 8 file.2.length ++ file.2

/-- The hash of the sources of COPY and ADD. -/
def hashContextSources (sha : Sha256) (context : Context) (srcPatterns : List String) : Option String :=
  (hashedFiles context srcPatterns).map fun files => sha.digest (files.flatMap encodeFile)

/-! ### Keys tell what they are made of -/

theorem Sha256.not_mem (sha : Sha256) {c} (h : c ∉ "0123456789abcdef".toList) (bytes : List UInt8) :
    c ∉ (sha.digest bytes).toList := fun hc => h (sha.hex bytes c hc)

/-- What follows the text of the instruction in what is hashed. -/
def hashTail : Option String → List Char
  | none => []
  | some hash => '\n' :: hash.toList

variable {sha : Sha256} {context : Context}

variable {prev prev' repr repr' : String} {hash hash' : Option String} {files : List (String × List UInt8)}
  {file : String × ContextPath}

/-- A key tells the key before it, and what follows it. -/
theorem chain_rest (hprev : '\n' ∉ prev.toList) (hprev' : '\n' ∉ prev'.toList)
    (h : chain sha prev repr hash = chain sha prev' repr' hash') :
    prev = prev' ∧ repr.toList ++ hashTail hash = repr'.toList ++ hashTail hash' := by
  have htext := congrArg String.toList (utf8_injective (sha.injective h))
  simp only [String.toList_append, append_assoc] at htext
  obtain ⟨hkey, hrest⟩ := append_cons_inj hprev hprev' htext
  refine ⟨String.toList_injective hkey, ?_⟩
  rcases hash with _ | _ <;> rcases hash' with _ | _ <;> simpa [hashTail] using hrest

/-- A key tells the key before it, the text of the instruction and the hash. -/
theorem chain_injective (hprev : '\n' ∉ prev.toList) (hprev' : '\n' ∉ prev'.toList) (hrepr : '\n' ∉ repr.toList)
    (hrepr' : '\n' ∉ repr'.toList) (h : chain sha prev repr hash = chain sha prev' repr' hash') :
    prev = prev' ∧ repr = repr' ∧ hash = hash' := by
  obtain ⟨hkey, hrest⟩ := chain_rest hprev hprev' h
  refine ⟨hkey, ?_⟩
  rcases hash with _ | _ <;> rcases hash' with _ | _ <;> simp only [hashTail, append_nil] at hrest
  · exact ⟨String.toList_injective hrest, rfl⟩
  · exact (hrepr (by rw [hrest]; simp)).elim
  · exact (hrepr' (by rw [← hrest]; simp)).elim
  · obtain ⟨htext, hhash⟩ := append_cons_inj hrepr hrepr' hrest
    exact ⟨String.toList_injective htext, congrArg some (String.toList_injective hhash)⟩

/-! ### The hash of the sources tells their files -/

theorem toLeBytes_injective {width m n} (hm : m < 256 ^ width) (hn : n < 256 ^ width)
    (h : toLeBytes width m = toLeBytes width n) : m = n := by
  induction width generalizing m n with
  | zero => omega
  | succ _ ih =>
    simp only [toLeBytes, List.cons.injEq] at h
    have hlow : m % 256 = n % 256 := by exact congrArg UInt8.toNat h.1
    have hhigh := ih (by rw [pow_succ] at hm; omega) (by rw [pow_succ] at hn; omega) h.2
    omega

theorem length_toLeBytes (width n : ℕ) : (toLeBytes width n).length = width := by
  induction width generalizing n with
  | zero => rfl
  | succ _ ih => rw [toLeBytes, length_cons, ih]

/-- A file whose hashed bytes can be told from what follows. -/
def Hashable (file : String × List UInt8) : Prop := 0 ∉ utf8 file.1 ∧ file.2.length < 2 ^ 64

theorem encodeFile_append_injective {a b s t} (ha : Hashable a) (hb : Hashable b)
    (h : encodeFile a ++ s = encodeFile b ++ t) : a = b ∧ s = t := by
  simp only [encodeFile, append_assoc, singleton_append] at h
  obtain ⟨hname, hrest⟩ := append_cons_inj ha.1 hb.1 h
  obtain ⟨hlength, hrest⟩ := append_inj hrest (by rw [length_toLeBytes, length_toLeBytes])
  obtain ⟨hcontent, hrest⟩ := append_inj hrest (@toLeBytes_injective 8 _ _ ha.2 hb.2 hlength)
  exact ⟨Prod.ext (utf8_injective hname) hcontent, hrest⟩

theorem encodeFiles_injective {files'} (hf : ∀ f ∈ files, Hashable f)
    (hf' : ∀ f ∈ files', Hashable f) (h : files.flatMap encodeFile = files'.flatMap encodeFile) : files = files' := by
  have hne : ∀ f l, encodeFile f ++ l ≠ [] := fun f l => by simp [encodeFile]
  induction files generalizing files' with
  | nil =>
    cases files' with
    | nil => rfl
    | cons f => exact absurd h.symm (hne f _)
  | cons f _ ih =>
    cases files' with
    | nil => exact absurd h (hne f _)
    | cons f' =>
      obtain ⟨rfl, hrest⟩ := encodeFile_append_injective (hf f (by simp)) (hf' f' (by simp)) h
      rw [ih (fun g hg => hf g (by simp [hg])) (fun g hg => hf' g (by simp [hg])) hrest]

theorem mem_of_mapM {α β : Type} {f : α → Option β} {l : List α} {k : List β} (h : l.mapM f = some k) {y : β}
    (hy : y ∈ k) : ∃ x ∈ l, f x = some y := by
  induction l generalizing k with
  | nil =>
    cases h
    cases hy
  | cons a _ ih =>
    rw [mapM_cons] at h
    obtain ⟨_, hb, h⟩ := bind_eq_some_iff.mp h
    obtain ⟨_, hk', h⟩ := bind_eq_some_iff.mp h
    cases h
    rcases mem_cons.1 hy with rfl | hy
    · exact ⟨a, by simp, hb⟩
    · obtain ⟨x, hx, hfx⟩ := ih hk' hy
      exact ⟨x, by simp [hx], hfx⟩

theorem collectFiles_below {depth : ℕ} {path : ContextPath} {rel : List String} {files : List (String × ContextPath)}
    (h : collectFiles context depth path rel = some files) (hfile : file ∈ files) :
    ∃ names, file = (join "/" (rel ++ names), path ++ names) := by
  induction depth generalizing path rel files with
  | zero => simp [collectFiles] at h
  | succ _ ih =>
    simp only [collectFiles, bind_eq_bind, bind_eq_some_iff, some.injEq] at h
    obtain ⟨_, -, _, hfound, rfl⟩ := h
    obtain ⟨_, hpart, hmem⟩ := mem_flatten.1 hfile
    obtain ⟨name, -, hname⟩ := mem_of_mapM hfound hpart
    split_ifs at hname with hdir
    · obtain ⟨below, rfl⟩ := ih hname hmem
      exact ⟨name :: below, by simp⟩
    · rw [some.injEq] at hname
      subst hname
      exact ⟨[name], mem_singleton.1 hmem⟩

theorem join_cons_cons (separator a b : String) (l : List String) :
    join separator (a :: b :: l) = a ++ separator ++ join separator (b :: l) := by
  apply String.toList_injective
  simp [join]

theorem zero_not_mem_join {names} (h : ∀ name ∈ names, 0 ∉ utf8 name) : 0 ∉ utf8 (join "/" names) := by
  induction names with
  | nil => decide +kernel
  | cons a names ih =>
    cases names with
    | nil => exact h a (by simp)
    | cons =>
      have hslash : 0 ∉ utf8 "/" := by decide +kernel
      rw [join_cons_cons, utf8_append, utf8_append]
      simp only [mem_append, not_or]
      exact ⟨⟨h a (by simp), hslash⟩, ih fun name hname => h name (by simp [hname])⟩

theorem zero_not_mem_of_trimSlashes {s} (h : 0 ∉ utf8 (trimSlashes s)) : 0 ∉ utf8 s := by
  have hsplit : s = String.ofList (s.toList.takeWhile (· == '/')) ++ trimSlashes s := by
    apply String.toList_injective
    simp [trimSlashes]
  have hslashes : ∀ l : List Char, (∀ c ∈ l, c = '/') → 0 ∉ utf8 (String.ofList l) := by
    intro l hl
    induction l with
    | nil => decide +kernel
    | cons c l ih =>
      have hc : String.ofList (c :: l) = "/" ++ String.ofList l := by
        apply String.toList_injective
        simp [hl c (by simp)]
      have hslash : 0 ∉ utf8 "/" := by decide +kernel
      rw [hc, utf8_append, mem_append, not_or]
      exact ⟨hslash, ih fun d hd => hl d (by simp [hd])⟩
  rw [hsplit, utf8_append, mem_append, not_or]
  exact ⟨hslashes _ fun c hc => by simpa using all_eq_true.1 all_takeWhile c hc, h⟩

theorem zero_not_mem_source {src files}
    (h : sourceFiles context src = some files) (hfile : file ∈ files) (hread : context.read file.2 ≠ none) :
    0 ∉ utf8 file.1 := by
  obtain ⟨_, hcontent⟩ := ne_none_iff_exists'.1 hread
  have hparts := context.noNul _ _ hcontent
  rw [sourceFiles] at h
  split at h
  · simp at h
  · obtain ⟨_, rfl⟩ := collectFiles_below h hfile
    rw [nil_append]
    exact zero_not_mem_join fun name hname => hparts name (by simp [hname])
  · rw [some.injEq] at h
    subst h
    rw [mem_singleton.1 hfile] at hparts ⊢
    exact zero_not_mem_of_trimSlashes (hparts _ (by simp))

theorem hashable_of_hashedFiles {srcPatterns : List String} (h : hashedFiles context srcPatterns = some files) :
    ∀ file ∈ files, Hashable file := by
  intro file hfile
  simp only [hashedFiles, bind_eq_bind, bind_eq_some_iff] at h
  obtain ⟨_, hfound, hsorted⟩ := h
  obtain ⟨⟨_, path⟩, hmem, hread⟩ := mem_of_mapM hsorted hfile
  obtain ⟨content, hcontent, rfl⟩ := map_eq_some_iff.1 hread
  obtain ⟨_, hpart, hmem⟩ := mem_flatten.1 (mem_mergeSort.1 hmem)
  obtain ⟨_, -, hsrc⟩ := mem_of_mapM hfound hpart
  exact ⟨zero_not_mem_source hsrc hmem (by simp [hcontent]), context.sized path content hcontent⟩

theorem hashContextSources_injective {context' src src'} (hsome : hashedFiles context src ≠ none)
    (h : hashContextSources sha context src = hashContextSources sha context' src') :
    hashedFiles context src = hashedFiles context' src' := by
  obtain ⟨_, hfiles⟩ := ne_none_iff_exists'.1 hsome
  rw [hashContextSources, hashContextSources, hfiles, map_some, eq_comm, map_eq_some_iff] at h
  obtain ⟨_, hfiles', hdigest⟩ := h
  rw [hfiles, hfiles', encodeFiles_injective (hashable_of_hashedFiles hfiles) (hashable_of_hashedFiles hfiles')
    (sha.injective hdigest.symm)]

end A3sBox.Build
