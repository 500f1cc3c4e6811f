import A3sBox.Core.Error
import A3sBox.Library.Slices

/-!
# Image references

`runtime/src/oci/reference.rs`: a reference names a registry, a repository, a tag and a digest, with defaults: `nginx`
is `docker.io/library/nginx:latest`. How the tag is taken off is written once here (`splitTag`).
-/

namespace A3sBox.Image

open Slices Text

/-- A parsed reference. -/
structure ImageReference where
  registry : String
  repository : String
  tag : Option String
  digest : Option String
  deriving DecidableEq, Repr

/-- Take the digest off a reference. -/
def splitDigest (reference : List Char) : Except BoxError (List Char × Option (List Char)) :=
  match rsplitOnce '@' reference with
  | none => .ok (reference, none)
  | some (nameTag, digest) =>
    if ':' ∈ digest then .ok (nameTag, some digest)
    else
      let reference := String.ofList reference
      .error (.ociImageError s!"Invalid digest format in reference '{reference}': expected algorithm:hex")

/-- Take the tag off: it is after the last colon that is after the last slash. -/
def splitTag (nameTag : List Char) : List Char × Option (List Char) :=
  match rsplitOnce '/' nameTag with
  | some (front, afterSlash) =>
    match rsplitOnce ':' afterSlash with
    | some (last, tag) => (front ++ '/' :: last, some tag)
    | none => (nameTag, none)
  | none =>
    match rsplitOnce ':' nameTag with
    | some (name, tag) => (name, some tag)
    | none => (nameTag, none)

/-- Divide a name into registry and repository. The first component is a registry if it looks like a host name. -/
def splitRegistryRepository (name : List Char) : Except BoxError (List Char × List Char) :=
  match splitOnce '/' name with
  | none => .ok ("docker.io".toList, "library/".toList ++ name)
  | some (first, repo) =>
    if '.' ∈ first ∨ ':' ∈ first ∨ first = "localhost".toList then
      if repo = [] then
        let name := String.ofList name
        .error (.ociImageError s!"Empty repository in reference '{name}'")
      else .ok (first, repo)
    else .ok ("docker.io".toList, name)

/-- Read a reference. -/
def ImageReference.parse (reference : String) : Except BoxError ImageReference :=
  let reference := trim reference.toList
  if reference = [] then .error (.ociImageError "Empty image reference")
  else do
    let (nameTag, digest) ← splitDigest reference
    let (name, tag) := splitTag nameTag
    let (registry, repository) ← splitRegistryRepository name
    .ok
      { registry := String.ofList registry
        repository := String.ofList repository
        tag := if tag.isNone && digest.isNone then some "latest" else tag.map String.ofList
        digest := digest.map String.ofList }

/-- A reference as text. -/
def ImageReference.fullReference (reference : ImageReference) : String :=
  reference.registry ++ "/" ++ reference.repository ++ (reference.tag.map fun tag => ":" ++ tag).getD "" ++
    (reference.digest.map fun digest => "@" ++ digest).getD ""

end A3sBox.Image
