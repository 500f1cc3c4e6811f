import A3sBox.Core.Error
import A3sBox.Library.Lines
import A3sBox.Library.Slices

/-!
# The user of the main process

`guest/init/src/user.rs`, `resolve_user_and_groups` of `namespace.rs` and `normalize_user_option` of
`cli/src/commands/common.rs`: the user of a box is a text, which the command line rewrites and the guest looks up.
`Etc` is what it reads of `/etc/passwd` and `/etc/group`, and `Kernel` which changes of identity are permitted.
`wanted` is what the two files say of a user.

`mainUser_iff`: the main process has that identity, or does not start, exactly if the files honour the user. One that
the guest does not read is root: `unknown_user_is_root`.
-/

namespace A3sBox.Guest

open Text Slices Lines List Option

/-! ### The files -/

/-- What is read of the files of a root file system. -/
structure Etc where
  passwd : Option (List Char)
  group : Option (List Char)

/-- A line without its end. -/
def lineText (line : List Char) : List Char :=
  match line.reverse with
  | '\n' :: '\r' :: text => text.reverse
  | '\n' :: text => text.reverse
  | _ => line

/-- The lines of a file, each cut at its colons. -/
def records (file : Option (List Char)) : List (List (List Char)) :=
  (lines '\n' (file.getD [])).map fun line => pieces (· == ':') (lineText line)

/-- Read a number. -/
def number? (s : List Char) : Option ℕ := (parseInt (2 ^ 32 - 1) s).toOption

/-- `root`. -/
def root : List Char := "root".toList

/-! ### Users in the guest -/

/-- The identity of a process. -/
structure ProcessUser where
  uid : ℕ
  gid : Option ℕ
  deriving DecidableEq, Repr

/-- Read a user or a group. -/
def parseUserPart (part : List Char) (label original : String) : Except String ℕ :=
  let name := String.ofList part
  if part = [] then .error s!"invalid user '{original}' ({label} component is empty)"
  else if part = root then .ok 0
  else
    match number? part with
    | some n => .ok n
    | none => .error s!"named {label} '{name}' is not supported yet; use root or a numeric UID[:GID]"

/-- `parse_process_user`. -/
def parseProcessUser : Option (List Char) → Except String (Option ProcessUser)
  | none => .ok none
  | some user =>
    let user := trim user
    let original := String.ofList user
    if user = [] then .error "user must not be empty"
    else
      match pieces (· == ':') user with
      | [part] => do
        let uid ← parseUserPart part "user" original
        .ok (some ⟨uid, none⟩)
      | [part, groupPart] => do
        let uid ← parseUserPart part "user" original
        let gid ← parseUserPart groupPart "group" original
        .ok (some ⟨uid, some gid⟩)
      | _ => .error s!"invalid user '{original}' (expected root, UID, or UID:GID)"

variable (passwd : Option (List Char))

/-- The numbers of the first line of a name. -/
def namedLine (name : List Char) : Option (ℕ × ℕ) :=
  match (records passwd).find? fun fields => 4 ≤ fields.length && fields.head? == some name with
  | some (_ :: _ :: uid :: gid :: _) => do
    let uid ← number? uid
    let gid ← number? gid
    some (uid, gid)
  | _ => none

/-- `resolve_named_user`. -/
def resolveNamedUser (user : List Char) : Option (List Char) :=
  let user := trim user
  let name := ((splitOnce ':' user).map Prod.fst).getD user
  let groupSuffix := (splitOnce ':' user).map Prod.snd
  if name = [] ∨ name = root ∨ number? name ≠ none then none
  else
    (namedLine passwd name).map fun (uid, gid) => showNat uid ++ ':' :: groupSuffix.getD (showNat gid)

/-- `passwd_entry_for_uid`. -/
def passwdEntryForUid (uid : ℕ) : Option (List Char × ℕ) :=
  (records passwd).findSome? fun
    | name :: _ :: uidField :: gidField :: _ =>
      if number? uidField = some uid then (number? gidField).map fun gid => (name, gid) else none
    | _ => none

/-- `primary_gid_for_uid`. -/
def primaryGidForUid (uid : ℕ) : Option ℕ :=
  (passwdEntryForUid passwd uid).map Prod.snd

variable (etc : Etc)

/-- `resolve_image_groups`. -/
def resolveImageGroups (uid : ℕ) (explicitGid : Option ℕ) (user : List Char) : List ℕ :=
  let namePart := trim ((trim user).takeWhile (· ≠ ':'))
  let isNamed := namePart ≠ [] ∧ namePart ≠ root ∧ number? namePart = none
  let entry := passwdEntryForUid etc.passwd uid
  let username := if isNamed then some namePart else entry.map Prod.fst
  let primary := explicitGid.orElse fun _ => entry.map Prod.snd
  let member :=
    match username with
    | none => []
    | some username =>
      (records etc.group).filterMap fun
        | _ :: _ :: gid :: members :: _ =>
          if (pieces (· == ',') members).any fun m => trim m == username then number? gid else none
        | _ => none
  (primary.toList ++ member).reverse.dedup.reverse

/-- `resolve_user_and_groups`. -/
def resolveUserAndGroups (user : Option (List Char)) : Option ProcessUser × List ℕ :=
  match (user.map trim).filter fun u => !u.isEmpty with
  | none => (none, [])
  | some user =>
    match parseProcessUser (some ((resolveNamedUser etc.passwd user).getD user)) with
    | .ok (some processUser) =>
      let gid := processUser.gid.orElse fun _ => primaryGidForUid etc.passwd processUser.uid
      (some ⟨processUser.uid, gid⟩, resolveImageGroups etc processUser.uid gid user)
    | _ => (none, [])

/-! ### Starting the main process -/

/-- Which changes of identity the kernel permits to a process of root. -/
structure Kernel where
  setgroups : List ℕ → Bool
  setgid : ℕ → Bool
  setuid : ℕ → Bool

/-- What becomes of the main process. -/
inductive Outcome where
  | notStarted
  | running (uid gid : ℕ) (groups : List ℕ)
  deriving DecidableEq, Repr

/-- Change the groups and the identity before `exec`; what is not changed is that of root. -/
def applyUser (kernel : Kernel) : Option ProcessUser × List ℕ → Outcome
  | (none, _) => .running 0 0 []
  | (some user, groups) =>
    if groups ≠ [] ∧ kernel.setgroups groups = false then .notStarted
    else if user.gid.any fun gid => !kernel.setgid gid then .notStarted
    else if kernel.setuid user.uid = false then .notStarted
    else .running user.uid (user.gid.getD 0) groups

/-- `spawn_isolated`, as far as the user is concerned. -/
def spawnUser (kernel : Kernel) (etc : Etc) (user : Option (List Char)) : Outcome :=
  applyUser kernel (resolveUserAndGroups etc (user.filter fun u => !u.isEmpty))

/-! ### Users on the host -/

/-- `normalize_user_part`. -/
def normalizeUserPart (part : List Char) (label original : String) : Except String (List Char) :=
  if part = [] then .error s!"Invalid --user '{original}' ({label} component is empty)"
  else if '\x00' ∈ part then .error s!"Invalid --user '{original}' ({label} contains a NUL byte)"
  else if part = root then .ok ['0']
  else .ok part

/-- `normalize_user_option`. -/
def normalizeUserOption : Option (List Char) → Except String (Option (List Char))
  | none => .ok none
  | some user =>
    let user := trim user
    let original := String.ofList user
    if user = [] then .error "--user must not be empty"
    else
      match pieces (· == ':') user with
      | [part] => do
        let uid ← normalizeUserPart part "user" original
        .ok (some uid)
      | [part, groupPart] => do
        let uid ← normalizeUserPart part "user" original
        let gid ← normalizeUserPart groupPart "group" original
        .ok (some (uid ++ ':' :: gid))
      | _ => .error s!"Invalid --user '{original}' (expected root, UID, or UID:GID)"

/-- `effective_user`: what is given for the box, or what the image says. -/
def effectiveUser (config image : Option (List Char)) : Option (List Char) :=
  (config.filter fun u => !u.isEmpty).orElse fun _ => image.filter fun u => !u.isEmpty

/-- The user of a box, which is the option of the command line or that of the image. -/
inductive Requested where
  | option (user : List Char)
  /-- The user of the image, if the command line gives none. -/
  | image (user : List Char)

/-- The text that is given. -/
def Requested.text : Requested → List Char
  | .option user => user
  | .image user => user

/-- The main process of a box, if its user is accepted. -/
def mainProcess (kernel : Kernel) (etc : Etc) (image : Option (List Char)) : Requested → Except String Outcome
  | .option user => do
    let config ← normalizeUserOption (some user)
    .ok (spawnUser kernel etc (effectiveUser config image))
  | .image user => .ok (spawnUser kernel etc (effectiveUser none (some user)))

/-! ### What the files say -/

/-- An account. -/
structure Account where
  name : List Char
  uid : ℕ
  gid : ℕ

/-- Read a line. -/
def account? : List (List Char) → Option Account
  | name :: _ :: uid :: gid :: _ => do
    let uid ← number? uid
    let gid ← number? gid
    some ⟨name, uid, gid⟩
  | _ => none

/-- The accounts of `/etc/passwd`. -/
def Etc.accounts : List Account := (records etc.passwd).filterMap account?

/-- The groups of `/etc/group`. -/
def Etc.groups : List (List Char × ℕ) :=
  (records etc.group).filterMap fun
    | name :: _ :: gid :: _ => (number? gid).map fun gid => (name, gid)
    | _ => none

/-- The user and the group that a user part stands for. A number without an account has the group of root. -/
def Etc.account (part : List Char) : Option (ℕ × ℕ) :=
  if part = [] then none
  else
    match number? part with
    | some n => some (n, ((etc.accounts.find? fun a => a.uid == n).map Account.gid).getD 0)
    | none => (etc.accounts.find? fun a => a.name == part).map fun a => (a.uid, a.gid)

/-- The number of a group. -/
def Etc.groupOf (part : List Char) : Option ℕ :=
  if part = [] then none
  else
    match number? part with
    | some n => some n
    | none => (etc.groups.find? fun g => g.1 == part).map Prod.snd

/-- The identity that a user stands for. -/
def Etc.wanted (user : List Char) : Option (ℕ × ℕ) :=
  match pieces (· == ':') (trim user) with
  | [part] => etc.account part
  | [part, groupPart] => do
    let (uid, _) ← etc.account part
    let gid ← etc.groupOf groupPart
    some (uid, gid)
  | _ => none

/-- The process has the identity that the user stands for, or it does not start. -/
def Outcome.Right (user : List Char) : Outcome → Prop
  | .notStarted => True
  | .running uid gid _ => etc.wanted user = some (uid, gid)

/-- What the guest makes of a user part: a number is itself, `root` is 0, and another name is looked up in
`/etc/passwd`. -/
def userNumber (part : List Char) : Option ℕ :=
  if part = [] then none
  else if part = root then some 0
  else (number? part).orElse fun _ => (namedLine passwd part).map Prod.fst

/-- What the guest makes of a group part: a number stands for itself, and `root` is 0. -/
def groupNumber (part : List Char) : Option ℕ := if part = root then some 0 else number? part

/-- The guest understands the parts of the user. -/
def Etc.Reads (user : List Char) : Prop :=
  match pieces (· == ':') (trim user) with
  | [part] => userNumber etc.passwd part ≠ none
  | [part, groupPart] => userNumber etc.passwd part ≠ none ∧ groupNumber groupPart ≠ none
  | _ => False

/-- Where user or group is written `root`, the files say that it is 0, with the group of the first account of user 0. -/
def Etc.RootAgrees (user : List Char) : Prop :=
  match pieces (· == ':') (trim user) with
  | [part] => part = root → etc.account part = some (0, (primaryGidForUid etc.passwd 0).getD 0)
  | [part, groupPart] =>
    (part = root → (etc.account part).map Prod.fst = some 0) ∧ (groupPart = root → etc.groupOf groupPart = some 0)
  | _ => True

/-- The guest understands the user, and the files agree on what is written `root`; or it does not, and they make it
root. -/
def Etc.Honours (user : List Char) : Prop :=
  (etc.Reads user ∧ etc.RootAgrees user) ∨ (¬ etc.Reads user ∧ etc.wanted user = some (0, 0))

/-- The forms of a user: a user part that is not empty, and a group part that is not if there is one. -/
def InForm (user : List Char) : Prop :=
  match pieces (· == ':') (trim user) with
  | [part] => part ≠ []
  | [part, groupPart] => part ≠ [] ∧ groupPart ≠ []
  | _ => False

/-- A user that is accepted for a box. -/
def Requested.Accepted : Requested → Prop
  | .option user => ∃ config, normalizeUserOption (some user) = .ok config
  | .image user => InForm user

/-! ### What the guest makes of a user -/

variable {n uid gid : ℕ} {user : List Char}

theorem number?_le {s} (h : number? s = some n) : n ≤ 2 ^ 32 - 1 := by
  rw [number?] at h
  rcases hparse : parseInt (2 ^ 32 - 1) s with _ | _
  · rw [hparse] at h
    cases h
  · rw [hparse] at h
    cases h
    exact parseInt_le hparse

theorem number?_showNat (h : n ≤ 2 ^ 32 - 1) : number? (showNat n) = some n := by
  rw [number?, parseInt_showNat h]
  rfl

variable {name : List Char} {label original : String}

theorem namedLine_le {passwd} (h : namedLine passwd name = some (uid, gid)) : uid ≤ 2 ^ 32 - 1 ∧ gid ≤ 2 ^ 32 - 1 := by
  rw [namedLine] at h
  split at h
  · next uidField gidField _ _ =>
    obtain ⟨_, hu, h⟩ := bind_eq_some_iff.mp h
    obtain ⟨_, hg, h⟩ := bind_eq_some_iff.mp h
    cases h
    exact ⟨number?_le hu, number?_le hg⟩
  · cases h

variable {part groupPart : List Char}

theorem parseUserPart_toOption (part) (label original) :
    (parseUserPart part label original).toOption = groupNumber part := by
  by_cases hnil : part = []
  · subst hnil
    rfl
  · by_cases hroot : part = root
    · simp [hroot]
      rfl
    · simp only [parseUserPart, groupNumber, hnil, hroot]
      rcases number? part with _ | _ <;> rfl

theorem colon_ne_nil (part rest : List Char) : part ++ ':' :: rest ≠ [] :=
  append_ne_nil_of_right_ne_nil _ (cons_ne_nil _ _)

theorem parseProcessUser_one (hcolon : ':' ∉ part) (htrim : trim part = part) :
    (parseProcessUser (some part)).toOption.join = (groupNumber part).map fun uid => ⟨uid, none⟩ := by
  by_cases hnil : part = []
  · subst hnil
    rfl
  · simp only [parseProcessUser, htrim, hnil, pieces_of_not_mem hcolon]
    rw [← parseUserPart_toOption part "user" (String.ofList part)]
    rcases parseUserPart part "user" (String.ofList part) with _ | _ <;> rfl

theorem parseProcessUser_two (hpart : ':' ∉ part) (hgroup : ':' ∉ groupPart)
    (htrim : trim (part ++ ':' :: groupPart) = part ++ ':' :: groupPart) :
    (parseProcessUser (some (part ++ ':' :: groupPart))).toOption.join =
      (groupNumber part).bind fun uid => (groupNumber groupPart).map fun gid => ⟨uid, some gid⟩ := by
  simp only [parseProcessUser, htrim, colon_ne_nil, pieces_append hpart, pieces_of_not_mem hgroup]
  generalize String.ofList (part ++ ':' :: groupPart) = original
  rw [← parseUserPart_toOption part "user" original, ← parseUserPart_toOption groupPart "group" original]
  rcases parseUserPart part "user" original with _ | _
  · rfl
  · rcases parseUserPart groupPart "group" original with _ | _ <;> rfl

section Resolve

variable {etc : Etc} {part groupPart rest : List Char}

theorem resolve_fst (hne : user ≠ []) (htrim : trim user = user) : (resolveUserAndGroups etc (some user)).1 =
      ((parseProcessUser (some ((resolveNamedUser etc.passwd user).getD user))).toOption.join).map fun p =>
        ⟨p.uid, p.gid.orElse fun _ => primaryGidForUid etc.passwd p.uid⟩ := by
  have hnotEmpty : (!user.isEmpty) = true := by simpa using hne
  simp only [resolveUserAndGroups, map_some, htrim, filter_some, hnotEmpty, if_true]
  rcases parseProcessUser (some ((resolveNamedUser etc.passwd user).getD user)) with _ | _ | _ <;> rfl

theorem groupNumber_ne_none : (part = root ∨ number? part ≠ none) ↔ groupNumber part ≠ none := by
  rw [groupNumber]
  split_ifs with hroot
  · simp [hroot]
  · simp [hroot]

theorem groupNumber_showNat (h : n ≤ 2 ^ 32 - 1) : groupNumber (showNat n) = some n := by
  have hnumber := number?_showNat h
  rw [groupNumber, if_neg, hnumber]
  intro hroot
  rw [hroot] at hnumber
  cases hnumber

theorem colon_not_mem_showNat (n) : ':' ∉ showNat n := not_mem_showNat (by decide)

theorem trim_showNat_group (n) (hlast : ∀ c ∈ (':' :: rest).getLast?, isWhitespace c = false) :
    trim (showNat n ++ ':' :: rest) = showNat n ++ ':' :: rest := by
  refine trim_eq_self_of_ends (fun c hc => ?_) (fun c hc => ?_)
  · rw [List.head?_append_of_ne_nil _ (showNat_ne_nil n)] at hc
    exact isWhitespace_of_mem_showNat (mem_of_mem_head? hc)
  · rw [List.getLast?_append_of_ne_nil _ (cons_ne_nil _ _)] at hc
    exact hlast c hc

theorem getLast_group (htrim : trim (part ++ ':' :: rest) = part ++ ':' :: rest) :
    ∀ c ∈ (':' :: rest).getLast?, isWhitespace c = false := by
  intro c hc
  refine getLast_trim (part ++ ':' :: rest) c ?_
  rw [htrim, List.getLast?_append_of_ne_nil _ (cons_ne_nil _ _)]
  exact hc

/-- **A user without a group**, as the guest reads it. -/
theorem resolve_one (hne : part ≠ []) (hpart : ':' ∉ part) (htrim : trim part = part) :
    (resolveUserAndGroups etc (some part)).1 =
      match groupNumber part with
      | some n => some ⟨n, primaryGidForUid etc.passwd n⟩
      | none => (namedLine etc.passwd part).map fun line => ⟨line.1, some line.2⟩ := by
  rw [resolve_fst hne htrim]
  simp only [resolveNamedUser, htrim, splitOnce_of_not_mem hpart, map_none, getD_none, hne, false_or,
    groupNumber_ne_none]
  rcases hnumber : groupNumber part with _ | _
  · rw [if_neg (not_not.mpr rfl)]
    rcases hline : namedLine etc.passwd part with _ | ⟨uid, gid⟩
    · rw [map_none, getD_none, parseProcessUser_one hpart htrim, hnumber]
      rfl
    · obtain ⟨hu, hg⟩ := namedLine_le hline
      have htrimmed : trim (showNat uid ++ ':' :: showNat gid) = showNat uid ++ ':' :: showNat gid := by
        refine trim_showNat_group uid fun c hc => ?_
        rw [List.getLast?_cons_of_ne_nil (showNat_ne_nil gid)] at hc
        exact isWhitespace_of_mem_showNat (mem_of_mem_getLast? hc)
      simp only [map_some, getD_some]
      rw [parseProcessUser_two (colon_not_mem_showNat uid) (colon_not_mem_showNat gid) htrimmed,
        groupNumber_showNat hu, groupNumber_showNat hg]
      rfl
  · rw [if_pos (some_ne_none _), getD_none, parseProcessUser_one hpart htrim, hnumber]
    rfl

theorem userNumber_eq (passwd) (hne : part ≠ []) :
    userNumber passwd part = (groupNumber part).orElse fun _ => (namedLine passwd part).map Prod.fst := by
  rw [userNumber, if_neg hne, groupNumber]
  split_ifs <;> rfl

/-- **A user with a group**, as the guest reads it. -/
theorem resolve_two (hpart : ':' ∉ part) (hgroup : ':' ∉ groupPart)
    (htrim : trim (part ++ ':' :: groupPart) = part ++ ':' :: groupPart) :
    (resolveUserAndGroups etc (some (part ++ ':' :: groupPart))).1 =
      (userNumber etc.passwd part).bind fun uid => (groupNumber groupPart).map fun gid => ⟨uid, some gid⟩ := by
  have hkeep : ∀ uid : Option ℕ, (uid.bind fun uid => (groupNumber groupPart).map fun gid =>
      (⟨uid, some gid⟩ : ProcessUser)).map
        (fun p => (⟨p.uid, p.gid.orElse fun _ => primaryGidForUid etc.passwd p.uid⟩ : ProcessUser)) =
      uid.bind fun uid => (groupNumber groupPart).map fun gid => ⟨uid, some gid⟩ := by
    intro uid
    rcases uid with _ | _
    · rfl
    · rcases groupNumber groupPart with _ | _ <;> rfl
  rw [resolve_fst (colon_ne_nil _ _) htrim]
  simp only [resolveNamedUser, htrim, splitOnce_append hpart, map_some, getD_some]
  by_cases hnil : part = []
  · subst hnil
    rw [if_pos (.inl rfl), getD_none, parseProcessUser_two hpart hgroup htrim]
    rfl
  · simp only [hnil, false_or, groupNumber_ne_none]
    rw [userNumber_eq _ hnil]
    rcases hnumber : groupNumber part with _ | _
    · rw [if_neg (not_not.mpr rfl)]
      rcases hline : namedLine etc.passwd part with _ | ⟨uid, _⟩
      · rw [map_none, getD_none, parseProcessUser_two hpart hgroup htrim, hnumber]
        rfl
      · simp only [map_some, getD_some]
        rw [parseProcessUser_two (colon_not_mem_showNat uid) hgroup (trim_showNat_group uid (getLast_group htrim)),
          groupNumber_showNat (namedLine_le hline).1, hkeep]
        rfl
    · rw [if_pos (some_ne_none _), getD_none, parseProcessUser_two hpart hgroup htrim, hnumber, hkeep]
      rfl

/-! ### The guest and the files -/

theorem primaryGidForUid_eq (etc : Etc) (uid : ℕ) :
    primaryGidForUid etc.passwd uid = (etc.accounts.find? fun a => a.uid == uid).map Account.gid := by
  rw [primaryGidForUid, passwdEntryForUid, Etc.accounts]
  induction records etc.passwd with
  | nil => rfl
  | cons fields _ ih =>
    rw [List.findSome?_cons, filterMap_cons]
    match fields with
    | [] | [_] | [_, _] | [_, _, _] => exact ih
    | name :: _ :: uidField :: gidField :: _ =>
      simp only [account?]
      rcases hu : number? uidField with _ | u
      · exact ih
      · rcases hg : number? gidField with _ | _
        · simpa using ih
        · by_cases hsame : u = uid
          · simp [hsame]
          · simpa [hsame] using ih

/-- An account has the name with which its line begins, and the line has four fields. -/
theorem head_of_account {fields a} (h : account? fields = some a) : 4 ≤ fields.length ∧ fields.head? = some a.name := by
  match fields with
  | [] | [_] | [_, _] | [_, _, _] => cases h
  | name :: _ :: uidField :: gidField :: _ =>
    obtain ⟨_, -, h⟩ := bind_eq_some_iff.mp h
    obtain ⟨_, -, h⟩ := bind_eq_some_iff.mp h
    cases h
    exact ⟨by simp, rfl⟩

theorem find_account (h : namedLine etc.passwd name = some (uid, gid)) :
    etc.accounts.find? (fun a => a.name == name) = some ⟨name, uid, gid⟩ := by
  rw [namedLine] at h
  split at h
  · next first second uidField gidField others hfind =>
    obtain ⟨_, hu, h⟩ := bind_eq_some_iff.mp h
    obtain ⟨_, hg, h⟩ := bind_eq_some_iff.mp h
    cases h
    obtain ⟨hhead, before, _, hrecords, hbefore⟩ := List.find?_eq_some_iff_append.mp hfind
    have hfirst : first = name := by simpa using hhead
    have haccount : account? (first :: second :: uidField :: gidField :: others) = some ⟨name, uid, gid⟩ := by
      simp [account?, hu, hg, hfirst]
    -- the lines before it have no account of the name
    have hnone : (before.filterMap account?).find? (fun a => a.name == name) = none := by
      refine List.find?_eq_none.mpr fun a ha hname => ?_
      obtain ⟨fields, hfields, hline⟩ := mem_filterMap.mp ha
      obtain ⟨hlength, hstart⟩ := head_of_account hline
      have hbad := hbefore fields hfields
      rw [hstart, beq_iff_eq.mp hname] at hbad
      simp [hlength] at hbad
    rw [Etc.accounts, hrecords, filterMap_append, List.find?_append, hnone, filterMap_cons, haccount]
    simp
  · cases h

theorem userNumber_eq_none (hne : part ≠ []) :
    userNumber etc.passwd part = none ↔ groupNumber part = none ∧ namedLine etc.passwd part = none := by
  rw [userNumber_eq _ hne]
  rcases groupNumber part with _ | _ <;> simp

/-- A user part that the guest understands and that is not `root` has the number that the files give. -/
theorem account_of_userNumber (hroot : part ≠ root) (h : userNumber etc.passwd part = some uid) :
    (etc.account part).map Prod.fst = some uid := by
  rw [userNumber] at h
  split_ifs at h with hnil
  rw [Etc.account, if_neg hnil]
  rcases hnumber : number? part with _ | _
  · rw [hnumber] at h
    obtain ⟨⟨_, _⟩, hline, hu⟩ := map_eq_some_iff.mp h
    rw [find_account hline]
    exact congrArg some hu
  · rw [hnumber] at h
    exact h

theorem groupOf_of_groupNumber (hroot : part ≠ root) (h : groupNumber part = some gid) :
    etc.groupOf part = some gid := by
  rw [groupNumber, if_neg hroot] at h
  have hne : part ≠ [] := by
    rintro rfl
    cases h
  rw [Etc.groupOf, if_neg hne, h]

/-- The user and the group of a process. -/
def identity : Option ProcessUser → ℕ × ℕ
  | none => (0, 0)
  | some user => (user.uid, user.gid.getD 0)

theorem resolveUserAndGroups_trim (etc) (user) :
    resolveUserAndGroups etc (some user) = resolveUserAndGroups etc (some (trim user)) := by
  simp [resolveUserAndGroups, trim_trim]

theorem wanted_one (hne : part ≠ []) (hpart : ':' ∉ part) (htrim : trim part = part) :
    etc.account part = some (identity (resolveUserAndGroups etc (some part)).1) ↔
      (userNumber etc.passwd part ≠ none ∧
          (part = root → etc.account part = some (0, (primaryGidForUid etc.passwd 0).getD 0))) ∨
        (¬ userNumber etc.passwd part ≠ none ∧ etc.account part = some (0, 0)) := by
  rw [resolve_one hne hpart htrim, ne_eq, userNumber_eq_none hne]
  by_cases hroot : part = root
  · subst hroot
    simp [groupNumber, identity]
  · have hgroup : groupNumber part = number? part := if_neg hroot
    rw [hgroup]
    rcases hnumber : number? part with _ | n
    · rcases hline : namedLine etc.passwd part with _ | ⟨uid, gid⟩
      · simp [identity]
      · have haccount : etc.account part = some (uid, gid) := by
          rw [Etc.account, if_neg hne, hnumber, find_account hline]
          rfl
        simp [haccount, identity, hroot]
    · have haccount : etc.account part = some (n, (primaryGidForUid etc.passwd n).getD 0) := by
        rw [Etc.account, if_neg hne, hnumber, primaryGidForUid_eq]
      simp [haccount, identity, hroot]

/-- What is not written `root` has the number that the files give. -/
theorem root_zero_iff {name read found n} (hread : read = some n)
    (hzero : name = root → read = some 0) (hother : name ≠ root → found = some n) :
    (name = root → found = some 0) ↔ found = some n := by
  by_cases hroot : name = root
  · obtain rfl : n = 0 := Option.some.inj (hread.symm.trans (hzero hroot))
    exact forall_prop_of_true hroot
  · exact iff_of_true (fun h => absurd h hroot) (hother hroot)

theorem wanted_two : ((etc.account part).bind fun a => (etc.groupOf groupPart).bind fun gid => some (a.1, gid)) =
        some (identity ((userNumber etc.passwd part).bind fun uid =>
          (groupNumber groupPart).map fun gid => ⟨uid, some gid⟩)) ↔
      ((userNumber etc.passwd part ≠ none ∧ groupNumber groupPart ≠ none) ∧
          (part = root → (etc.account part).map Prod.fst = some 0) ∧
          (groupPart = root → etc.groupOf groupPart = some 0)) ∨
        (¬ (userNumber etc.passwd part ≠ none ∧ groupNumber groupPart ≠ none) ∧
          ((etc.account part).bind fun a => (etc.groupOf groupPart).bind fun gid => some (a.1, gid)) =
            some (0, 0)) := by
  rcases huser : userNumber etc.passwd part with _ | _
  · simp [identity]
  rcases hgroup : groupNumber groupPart with _ | _
  · simp [identity]
  rw [root_zero_iff huser (fun h => by rw [h]; rfl) fun hne => account_of_userNumber hne huser,
    root_zero_iff hgroup (fun h => by rw [h]; rfl) fun hne => groupOf_of_groupNumber hne hgroup]
  rcases etc.account part with _ | ⟨_, _⟩ <;> rcases etc.groupOf groupPart with _ | _ <;> simp [identity]

/-- **What the guest makes of a user** is what the files say of it exactly if the user is honoured. -/
theorem wanted_iff (hne : trim user ≠ []) :
    etc.wanted user = some (identity (resolveUserAndGroups etc (some user)).1) ↔ etc.Honours user := by
  rw [resolveUserAndGroups_trim, Etc.Honours, Etc.Reads, Etc.RootAgrees, Etc.wanted]
  have htrim := trim_trim user
  generalize trim user = text at hne htrim
  rcases mark_cases ':' text with hcolon | ⟨_, rest, hpart, rfl⟩
  · rw [pieces_of_not_mem hcolon]
    exact wanted_one hne hcolon htrim
  · rw [pieces_append hpart]
    rcases mark_cases ':' rest with hcolon | ⟨_, others, hsecond, rfl⟩
    · rw [pieces_of_not_mem hcolon, resolve_two hpart hcolon htrim]
      exact wanted_two
    · rw [pieces_append hsecond]
      rcases hothers : pieces (· == ':') others with _ | ⟨_, _⟩
      · exact absurd hothers (pieces_ne_nil _ _)
      · simp

end Resolve

/-! ### What the command line makes of a user -/

/-- The command line writes `root` as a number. -/
def normalPart (part : List Char) : List Char := if part = root then ['0'] else part

theorem normalizeUserPart_ok {uid} (h : normalizeUserPart part label original = .ok uid) :
    part ≠ [] ∧ uid = normalPart part := by
  rw [normalizeUserPart] at h
  split_ifs at h with hnil _ hroot
  · cases h
    exact ⟨hnil, (if_pos hroot).symm⟩
  · cases h
    exact ⟨hnil, (if_neg hroot).symm⟩

theorem normalPart_cases (P : List Char → Prop) (hroot : part = root → P ['0']) (hother : P part) :
    P (normalPart part) := by
  rw [normalPart]
  split_ifs with h
  · exact hroot h
  · exact hother

theorem groupNumber_normalPart (part) : groupNumber (normalPart part) = groupNumber part :=
  normalPart_cases (groupNumber · = groupNumber part) (by rintro rfl; rfl) rfl

theorem userNumber_normalPart (passwd) (part) :
    userNumber passwd (normalPart part) = userNumber passwd part :=
  normalPart_cases (userNumber passwd · = userNumber passwd part) (by rintro rfl; rfl) rfl

theorem colon_not_mem_normalPart (h : ':' ∉ part) : ':' ∉ normalPart part :=
  normalPart_cases (':' ∉ ·) (fun _ => by decide) h

theorem normalPart_ne_nil (h : part ≠ []) : normalPart part ≠ [] :=
  normalPart_cases (· ≠ []) (fun _ => cons_ne_nil _ _) h

theorem head_normalPart (h : ∀ c ∈ part.head?, isWhitespace c = false) :
    ∀ c ∈ (normalPart part).head?, isWhitespace c = false :=
  normalPart_cases (∀ c ∈ ·.head?, isWhitespace c = false) (fun _ => by simp; rfl) h

theorem getLast_normalPart (h : ∀ c ∈ part.getLast?, isWhitespace c = false) :
    ∀ c ∈ (normalPart part).getLast?, isWhitespace c = false :=
  normalPart_cases (∀ c ∈ ·.getLast?, isWhitespace c = false) (fun _ => by simp; rfl) h

theorem resolve_normal_two (etc) (hne : part ≠ []) (hneg : groupPart ≠ [])
    (hpart : ':' ∉ part) (hgroup : ':' ∉ groupPart)
    (htrim : trim (part ++ ':' :: groupPart) = part ++ ':' :: groupPart) :
    (resolveUserAndGroups etc (some (normalPart part ++ ':' :: normalPart groupPart))).1 =
      (resolveUserAndGroups etc (some (part ++ ':' :: groupPart))).1 := by
  have htrim' : trim (normalPart part ++ ':' :: normalPart groupPart) =
      normalPart part ++ ':' :: normalPart groupPart := by
    refine trim_eq_self_of_ends ?_ ?_
    · have hhead := head_of_trimmed htrim
      rw [List.head?_append_of_ne_nil _ hne] at hhead
      rw [List.head?_append_of_ne_nil _ (normalPart_ne_nil hne)]
      exact head_normalPart hhead
    · have hlast := getLast_of_trimmed htrim
      rw [List.getLast?_append_of_ne_nil _ (cons_ne_nil _ _), List.getLast?_cons_of_ne_nil hneg] at hlast
      rw [List.getLast?_append_of_ne_nil _ (cons_ne_nil _ _), List.getLast?_cons_of_ne_nil (normalPart_ne_nil hneg)]
      exact getLast_normalPart hlast
  rw [resolve_two (colon_not_mem_normalPart hpart) (colon_not_mem_normalPart hgroup) htrim',
    resolve_two hpart hgroup htrim, userNumber_normalPart, groupNumber_normalPart]

/-- **What the command line makes of a user** is read by the guest as the user itself. -/
theorem normalizeUserOption_ok (etc) {config} (h : normalizeUserOption (some user) = .ok config) :
    trim user ≠ [] ∧ ∃ text, config = some text ∧ text ≠ [] ∧
      (resolveUserAndGroups etc (some text)).1 = (resolveUserAndGroups etc (some user)).1 := by
  rw [resolveUserAndGroups_trim etc user]
  have htrim := trim_trim user
  simp only [normalizeUserOption] at h
  generalize trim user = text at h htrim
  split_ifs at h with hne
  refine ⟨hne, ?_⟩
  rcases mark_cases ':' text with hcolon | ⟨part, rest, hpart, rfl⟩
  · simp only [pieces_of_not_mem hcolon] at h
    obtain ⟨_, huid, h⟩ := except_bind_ok h
    obtain ⟨-, rfl⟩ := normalizeUserPart_ok huid
    cases h
    refine ⟨_, rfl, normalPart_ne_nil hne, ?_⟩
    exact normalPart_cases (fun part => (resolveUserAndGroups etc (some part)).1 = _) (by rintro rfl; rfl) rfl
  · rcases mark_cases ':' rest with hcolon | ⟨_, others, hsecond, rfl⟩
    · simp only [pieces_append hpart, pieces_of_not_mem hcolon] at h
      obtain ⟨_, huid, h⟩ := except_bind_ok h
      obtain ⟨_, hgid, h⟩ := except_bind_ok h
      obtain ⟨hneu, rfl⟩ := normalizeUserPart_ok huid
      obtain ⟨hneg, rfl⟩ := normalizeUserPart_ok hgid
      cases h
      exact ⟨_, rfl, colon_ne_nil _ _, resolve_normal_two etc hneu hneg hpart hcolon htrim⟩
    · rcases hothers : pieces (· == ':') others with _ | ⟨_, _⟩
      · exact absurd hothers (pieces_ne_nil _ _)
      · simp only [pieces_append hpart, pieces_append hsecond, hothers] at h
        cases h

/-! ### The main process -/

/-- A kernel that permits everything. -/
def openKernel : Kernel := ⟨fun _ => true, fun _ => true, fun _ => true⟩

theorem applyUser_openKernel (user : Option ProcessUser × List ℕ) :
    ∃ groups, applyUser openKernel user = .running (identity user.1).1 (identity user.1).2 groups := by
  obtain ⟨_ | ⟨_, _⟩, groups⟩ := user
  · exact ⟨[], rfl⟩
  · exact ⟨groups, by simp [applyUser, openKernel, identity]⟩

theorem right_iff {etc : Etc} {read : Option ProcessUser × List ℕ} :
    (∀ kernel, (applyUser kernel read).Right etc user) ↔ etc.wanted user = some (identity read.1) := by
  constructor
  · intro h
    obtain ⟨_, hrunning⟩ := applyUser_openKernel read
    have hright := h openKernel
    rw [hrunning] at hright
    exact hright
  · intro h kernel
    obtain ⟨_ | _, _⟩ := read
    · exact h
    · rw [applyUser]
      split_ifs
      · trivial
      · trivial
      · trivial
      · exact h

theorem filter_of_ne_nil (hne : user ≠ []) : (some user).filter (fun u => !u.isEmpty) = some user := by
  simp [hne]

theorem trim_ne_nil_of_inForm (h : InForm user) : trim user ≠ [] := by
  intro hnil
  rw [InForm, hnil] at h
  exact h rfl

/-- **The user of the main process.** A user that is accepted for a box is the identity of its main process, or that
does not start, exactly if the user is honoured: the guest understands it and the files agree on what is written `root`,
or the files make it root. -/
theorem mainUser_iff (etc : Etc) (image : Option (List Char)) (requested : Requested) (haccepted : requested.Accepted) :
    (∀ kernel outcome, mainProcess kernel etc image requested = .ok outcome → outcome.Right etc requested.text) ↔
      etc.Honours requested.text := by
  cases requested with
  | option =>
    obtain ⟨_, hconfig⟩ := haccepted
    obtain ⟨hne, text, rfl, htext, hsame⟩ := normalizeUserOption_ok etc hconfig
    have heffective : effectiveUser (some text) image = some text := by
      rw [effectiveUser, filter_of_ne_nil htext]
      rfl
    simp only [mainProcess, hconfig, bind, Except.bind, heffective, spawnUser, filter_of_ne_nil htext, Except.ok.injEq,
      forall_eq']
    rw [right_iff, hsame]
    exact wanted_iff hne
  | image user =>
    have hne := trim_ne_nil_of_inForm haccepted
    have huser : user ≠ [] := by
      rintro rfl
      exact hne rfl
    have heffective : effectiveUser none (some user) = some user := by
      rw [effectiveUser, filter_of_ne_nil huser]
      rfl
    simp only [mainProcess, heffective, spawnUser, filter_of_ne_nil huser, Except.ok.injEq, forall_eq']
    rw [right_iff]
    exact wanted_iff hne

/-- The files of a small image. -/
def smallEtc : Etc := ⟨some "root:x:0:0::/:/bin/sh\napp:x:1000:1000::/:/bin/sh\n".toList, some "app:x:1000:\n".toList⟩

/-- `mainUser_iff` at a name that the files know. -/
theorem app_runs_as_app :
    mainProcess openKernel smallEtc none (.option "app".toList) = .ok (.running 1000 1000 [1000]) ∧
      (Outcome.running 1000 1000 [1000]).Right smallEtc "app".toList := by
  have hruns : mainProcess openKernel smallEtc none (.option "app".toList) = .ok (.running 1000 1000 [1000]) := by
    decide +kernel
  refine ⟨hruns, (mainUser_iff smallEtc none (.option "app".toList) ⟨some "app".toList, by decide +kernel⟩).mpr
    (.inl ⟨?_, ?_⟩) openKernel _ hruns⟩
  · exact some_ne_none 1000
  · intro hroot
    exact absurd hroot (by decide)

/-- A user that the files do not know runs as root, and so does a user with the name of a group. -/
theorem unknown_user_is_root : mainProcess openKernel smallEtc none (.option "web".toList) = .ok (.running 0 0 []) ∧
      mainProcess openKernel smallEtc none (.option "app:app".toList) = .ok (.running 0 0 []) ∧
      smallEtc.wanted "web".toList = none ∧ smallEtc.wanted "app:app".toList = some (1000, 1000) := by
  decide +kernel

end A3sBox.Guest
