import A3sBox.Library.Text
import A3sBox.Library.Lines

/-!
# The files of a root file system that the runtime writes

`runtime/src/oci/rootfs.rs`: when a root file system is built from an image, the users and
groups that are missing are added to those of the image, and the other files that a box
cannot do without are written anew. The content of a file is its bytes.
-/

namespace A3sBox.Rootfs

open Text Lines List

/-- The users that a root file system must have, with their entries. -/
def requiredUsers : List (String × String) :=
  [("root", "root:x:0:0:root:/root:/bin/sh"), ("nobody", "nobody:x:65534:65534:nobody:/:/bin/false")]

/-- The groups that a root file system must have, with their entries. -/
def requiredGroups : List (String × String) := [("root", "root:x:0:"), ("nogroup", "nogroup:x:65534:")]

/-- What `etc/hosts` holds. -/
def hostsText : String := "127.0.0.1\tlocalhost\n::1\t\tlocalhost\n"

/-- What `etc/resolv.conf` holds if nothing else is asked for. -/
def resolvText : String := "nameserver 8.8.8.8\nnameserver 8.8.4.4\n"

/-- What `etc/nsswitch.conf` holds. -/
def nsswitchText : String := "passwd: files\ngroup: files\nhosts: files dns\n"

/-- A line without its end. -/
def lineText (line : List UInt8) : List UInt8 :=
  match line.reverse with
  | 10 :: 13 :: text => text.reverse
  | 10 :: text => text.reverse
  | _ => line

/-- Whether a line of the text is the entry of the name: what is before its first colon. -/
def hasEntry (existing : List UInt8) (name : String) : Bool :=
  (lines 10 existing).any fun line => (lineText line).takeWhile (· ≠ 58) == utf8 name

/-- The text with the entries that it lacks, each on a line of its own. What cannot be read as text counts as empty:
`ensure_passwd_entries` and `ensure_group_entries`. -/
def ensureEntries (required : List (String × String)) (content : Option (List UInt8)) : List UInt8 :=
  let bytes := content.getD []
  let existing := if isUtf8 bytes then bytes else []
  let ended := if existing ≠ [] ∧ existing.getLast? ≠ some 10 then existing ++ [10] else existing
  ended ++ required.flatMap fun (name, entry) => if hasEntry existing name then [] else utf8 entry ++ [10]

end A3sBox.Rootfs
