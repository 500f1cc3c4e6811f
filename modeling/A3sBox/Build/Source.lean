import A3sBox.Build.Cache
import A3sBox.Core.Error
import Mathlib.Data.Char

/-!
# The sources of COPY and ADD

What `handle_copy` and `handle_add` read of the build context: patterns are replaced by the names they match, and a
source is a download, an archive, a file or a directory without what `.dockerignore` excludes.

A source that cannot be read is an error in the place where it is met. A directory is what is copied of it, in the
order in which it is read.
-/

namespace A3sBox.Build

open Text

/-- Which names a pattern matches. -/
abbrev Glob := String → String → Bool

/-- Which paths are excluded from the context. -/
abbrev Ignore := List String → Bool

/-- Whether a source contains a character of a pattern. -/
def hasGlobMeta (s : String) : Bool := s.toList.any fun c => c == '*' || c == '?' || c == '['

/-- Whether a source is downloaded. -/
def isUrl (s : String) : Bool := s.startsWith "http://" || s.startsWith "https://"

/-- The part of a path before the last slash, and the part after it. -/
def rsplitSlash (s : String) : Option (String × String) :=
  match s.toList.reverse.span (· != '/') with
  | (_, []) => none
  | (name, _ :: dir) => some (String.ofList dir.reverse, String.ofList name.reverse)

/-- The paths that a pattern stands for, sorted. Only the last part of the path is a pattern. -/
def expandGlobSources (glob : Glob) (context : Context) (pattern : String) : List String :=
  let p := trimSlashes pattern
  let (dirPart, namePat) := (rsplitSlash p).getD ("", p)
  let names := (context.readDir (if dirPart = "" then [] else [dirPart])).getD []
  let found := (names.filter (glob namePat)).map fun name => if dirPart = "" then name else dirPart ++ "/" ++ name
  found.mergeSort fun a b => decide (a.toList ≤ b.toList)

/-- Replace patterns by what they match. -/
def resolveSourcePatterns (glob : Glob) (context : Context) : List String → Except BoxError (List String)
  | [] => .ok []
  | src :: rest => do
    let found ←
      if isUrl src then .ok [src]
      else if hasGlobMeta src then
        match expandGlobSources glob context src with
        | [] => .error (.buildError s!"COPY/ADD source not found: no matches for pattern '{src}'")
        | found => .ok found
      else .ok [src]
    let resolved ← resolveSourcePatterns glob context rest
    .ok (found ++ resolved)

/-- What is copied of a directory. -/
inductive CopiedNode where
  | file (content : List UInt8) (perm : ℕ)
  | link (text : String)
  | dir
  deriving DecidableEq, Repr

/-- A source. -/
inductive Source where
  | download (url : String) (content : List UInt8)
  | archive (name : String) (content : List UInt8)
  | file (name : String) (content : List UInt8) (perm : ℕ)
  | tree (nodes : List (List String × CopiedNode))
  deriving DecidableEq, Repr

/-- What the ignored paths leave of the directory at `path`, which is `rel` in the context and `below` in what is
copied. None if something cannot be read. -/
def copyDirFiltered (context : Context) (ignore : Ignore) :
    ℕ → ContextPath → List String → List String → Option (List (List String × CopiedNode))
  | 0, _, _, _ => none
  | depth + 1, path, rel, below => do
    let names ← context.readDir path
    let nodes ← (names.filter fun name => !ignore (rel ++ [name])).mapM fun name =>
      let path' := path ++ [name]
      match context.link path' with
      | some text => some [(below ++ [name], .link text)]
      | none =>
        if context.kind path' = some .dir then
          (copyDirFiltered context ignore depth path' (rel ++ [name]) (below ++ [name])).map
            ((below ++ [name], .dir) :: ·)
        else (context.read path').map fun content => [(below ++ [name], .file content (context.perm path'))]
    some nodes.flatten

/-- Whether a name looks like that of an archive. -/
def isTarArchive (name : String) : Bool :=
  let lower := name.toLower
  [".tar", ".tar.gz", ".tgz", ".tar.bz2", ".tbz2", ".tar.xz", ".txz"].any fun ending => lower.endsWith ending

/-- What the sources of an instruction are read from. -/
structure SourceRoot where
  context : Context
  path : String
  ignore : Option Ignore

/-- The parts of a source, as `.dockerignore` sees it. -/
def sourceParts (src : String) : List String :=
  if src = "." then [] else (splitSlashes (trimSlashes src)).filter (· ≠ "")

/-- Read one source of an instruction that is called `word`; `archives` tells whether archives are extracted. -/
def readSource (root : SourceRoot) (word : String) (archives : Bool) (src : String) : Except BoxError Source :=
  let path := [trimSlashes src]
  let rel := sourceParts src
  let name := (splitSlashes (trimSlashes src)).getLastD src
  let where_ := root.path
  match root.context.kind path with
  | none => .error (.buildError s!"{word} source not found: {src} (in context {where_})")
  | some kind =>
    if rel ≠ [] ∧ kind = .file ∧ (root.ignore.any fun ignore => ignore rel) then
      .error (.buildError s!"{word} source not found: {src} (excluded by .dockerignore)")
    else
      match kind with
      | .dir =>
        match copyDirFiltered root.context (root.ignore.getD fun _ => false) maxDepth path rel [] with
        | none => .error (.buildError s!"Failed to read directory {src}")
        | some nodes => .ok (.tree nodes)
      | .file =>
        match root.context.read path with
        | none => .error (.buildError s!"Failed to copy {src}")
        | some content =>
          if archives && isTarArchive src then .ok (.archive src content)
          else .ok (.file name content (root.context.perm path))

/-- The sources of COPY, each read when its turn comes. -/
def copySources (glob : Glob) (root : SourceRoot) (srcPatterns : List String) :
    Except BoxError (List (Except BoxError Source)) :=
  (resolveSourcePatterns glob root.context srcPatterns).map fun sources =>
    sources.map (readSource root "COPY" false)

/-- The sources of ADD: like those of COPY, and downloads. -/
def addSources (glob : Glob) (root : SourceRoot) (download : String → Except String (List UInt8))
    (srcPatterns : List String) : Except BoxError (List (Except BoxError Source)) :=
  (resolveSourcePatterns glob root.context srcPatterns).map fun sources =>
    sources.map fun src =>
      if isUrl src then
        match download src with
        | .error e => .error (.buildError s!"ADD URL download failed for {src}: {e}")
        | .ok content => .ok (.download src content)
      else readSource root "ADD" true src

end A3sBox.Build
