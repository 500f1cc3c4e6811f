import A3sBox.Cri.SecurityEnv
import Mathlib.Data.List.Dedup

/-!
# The capabilities of a container

`kept_capabilities` of `cri/src/runtime_service/mod.rs` resolves the lists of a security context, and
`restrict_capabilities_to_keep` and `cap_name_to_number` of `guest/init/src/namespace.rs` make a word of bits of them;
each side has its own normal form of names.

## The model

An entry names a capability, or all, in any letter case and with or without `CAP_` (`Spelled`). `Wanted` is what the
lists ask for, `mainMask` the word of the main process.

`mainMask_iff`: they agree exactly if the lists agree with the program; not so with a terminal, without a security
context, for what is both added and dropped, or if a `CAP_` to be dropped is not in upper case
(`lower_case_not_dropped`).
-/

namespace A3sBox.Cri

open Text Slices Guest List Option

/-! ### What is asked for -/

variable (entry : List Char)

/-- The name of an entry: in upper case, and without the beginning. -/
def plainName : List Char :=
  let name := (trim entry).map Char.toUpper
  (stripStart capStart name).getD name

/-- The entry names all. -/
def NamesAll : Prop := plainName entry = "ALL".toList

/-- The entry names a capability. -/
def Names (n : ℕ) : Prop := capNumber (plainName entry) = some n

/-- The entry names a capability, or all of them. -/
def Spelled : Prop := NamesAll entry ∨ ∃ n, Names entry n

/-- The entry has the beginning, but not in upper case. -/
def Loose : Prop := capStart <+: (trim entry).map Char.toUpper ∧ ¬ capStart <+: trim entry

instance (entry : List Char) : Decidable (NamesAll entry) := inferInstanceAs (Decidable (_ = _))

instance (entry : List Char) (n : ℕ) : Decidable (Names entry n) := inferInstanceAs (Decidable (_ = _))

instance (entry : List Char) : Decidable (Loose entry) := inferInstanceAs (Decidable (_ ∧ _))

variable (entries : List (List Char))

/-- An entry names all. -/
def HasAll : Prop := ∃ entry ∈ entries, NamesAll entry

/-- An entry names the capability. -/
def HasName (n : ℕ) : Prop := ∃ entry ∈ entries, Names entry n

/-- The entries whose beginning, if they have it, is in upper case. -/
def HasPlainAll : Prop := ∃ entry ∈ entries, NamesAll entry ∧ ¬ Loose entry

/-- A capability is in the list by such an entry. -/
def HasPlainName (n : ℕ) : Prop := ∃ entry ∈ entries, Names entry n ∧ ¬ Loose entry

instance (entries : List (List Char)) : Decidable (HasAll entries) :=
  inferInstanceAs (Decidable (∃ entry ∈ entries, NamesAll entry))

instance (entries : List (List Char)) (n : ℕ) : Decidable (HasName entries n) :=
  inferInstanceAs (Decidable (∃ entry ∈ entries, Names entry n))

instance (entries : List (List Char)) : Decidable (HasPlainAll entries) :=
  inferInstanceAs (Decidable (∃ entry ∈ entries, NamesAll entry ∧ ¬ Loose entry))

/-- It is in the default set. -/
def IsDefault (n : ℕ) : Prop := ∃ name ∈ defaultCapabilities, capNumber name.toList = some n

instance (n : ℕ) : Decidable (IsDefault n) :=
  inferInstanceAs (Decidable (∃ name ∈ defaultCapabilities, capNumber name.toList = some n))

/-- The list adds it. -/
def Added (add : List (List Char)) (n : ℕ) : Prop := HasAll add ∨ HasName add n

section

variable (add drop : List (List Char))

/-- The capabilities that two lists ask for. -/
def Wanted (n : ℕ) : Prop :=
  n < 41 ∧ (HasAll drop → Added add n) ∧ (¬ HasAll drop → (IsDefault n ∨ Added add n) ∧ ¬ HasName drop n)

/-- The word has exactly the capabilities that are asked for, and none that is only dropped. -/
def KeptRight (mask : BitVec 64) (add drop : List (List Char)) : Prop :=
  (∀ n, mask.getLsbD n = true ↔ Wanted add drop n) ∧ ∀ n, HasName drop n → ¬ Added add n → mask.getLsbD n = false

/-! ### Where the lists disagree with the program -/

/-- It is both added and dropped. -/
def Overlaps (n : ℕ) : Prop := ¬ HasAll drop ∧ HasName add n ∧ HasName drop n

/-- A capability of the default set is not removed by the program. -/
def Remains (drop : List (List Char)) (n : ℕ) : Prop := IsDefault n ∧ ¬ HasPlainAll drop ∧ ¬ HasPlainName drop n

/-- A capability of the default set is dropped, but only by entries whose beginning is not in upper case. -/
def DropSlips (n : ℕ) : Prop :=
  Remains drop n ∧ ¬ HasName add n ∧ (HasAll drop → ¬ HasAll add) ∧ (¬ HasAll drop → HasName drop n)

/-- All capabilities are added, but only by entries whose beginning is not in upper case, and this one is lost. -/
def AllSlips (n : ℕ) : Prop :=
  n < 41 ∧ HasAll add ∧ ¬ HasName add n ∧ (HasAll drop → ¬ Remains drop n) ∧
    (¬ HasAll drop → ¬ HasName drop n ∧ ¬ IsDefault n)

end

variable (config : ContainerConfig)

/-- What is to be added. -/
def ContainerConfig.add : List (List Char) :=
  ((config.securityContext.bind SecurityContext.capabilities).map Capability.addCapabilities).getD []

/-- What is to be dropped. -/
def ContainerConfig.drop : List (List Char) :=
  ((config.securityContext.bind SecurityContext.capabilities).map Capability.dropCapabilities).getD []

/-- The program keeps all capabilities: there is no security context, the process has a terminal, or all are added. -/
def ContainerConfig.KeepsAll : Prop :=
  config.securityContext.isNone ∨ config.tty = true ∨ HasPlainAll config.add

/-- The lists agree with the program: if it keeps all capabilities they ask for all, and otherwise each entry is read as
meant. -/
def ContainerConfig.ListsAgree : Prop :=
  (config.KeepsAll → ∀ n < 41, Wanted config.add config.drop n) ∧
    (¬ config.KeepsAll → ∀ n, ¬ Overlaps config.add config.drop n ∧ ¬ DropSlips config.add config.drop n ∧
      ¬ AllSlips config.add config.drop n)

/-- The capabilities of the main process. -/
def mainMask (launch : Launch) : BitVec 64 := if launch.tty then fullMask else envMask launch.toExecRequest.env

/-! ### Names on both sides -/

/-- A name that the guest has a number for. -/
def knownNames : List (List Char) := "ALL".toList :: capabilityNames.map String.toList

variable {entry name : List Char} {n : ℕ} {entries : List (List Char)}

theorem plainName_mem (h : Spelled entry) : plainName entry ∈ knownNames := by
  rcases h with hall | ⟨_, hn⟩
  · exact hall ▸ mem_cons_self
  · obtain ⟨hlt, hname, -⟩ := List.idxOf?_eq_some_iff.mp hn
    exact mem_cons_of_mem _ (hname ▸ getElem_mem hlt)

/-- A letter of a name. -/
def isPlain (c : Char) : Bool := decide (c.toNat < 128) && !(c == ',') && !isWhitespace c

variable {c : Char} {kept : List (List Char)}

theorem isPlain_iff : isPlain c = true ↔ c.toNat < 128 ∧ c ≠ ',' ∧ isWhitespace c = false := by
  simp [isPlain, and_assoc]

theorem knownNames_plain (h : name ∈ knownNames) : ¬ capStart <+: name ∧ name ≠ [] ∧
    ∀ c ∈ name, c.toNat < 128 ∧ c ≠ ',' ∧ isWhitespace c = false := by
  have hall : (knownNames.all fun name => !capStart.isPrefixOf name && !name.isEmpty && name.all isPlain) = true := by
    decide +kernel
  have hname := all_eq_true.mp hall name h
  simp only [Bool.and_eq_true, Bool.not_eq_true', isEmpty_eq_false_iff, List.all_eq_true] at hname
  obtain ⟨⟨hstart, hne⟩, hall⟩ := hname
  refine ⟨fun h => ?_, hne, fun c hc => isPlain_iff.mp (hall c hc)⟩
  rw [List.isPrefixOf_iff_prefix.mpr h] at hstart
  cases hstart

theorem defaults_known : ∀ name ∈ defaultCapabilities.map String.toList, name ∈ knownNames := by
  have hall : ((defaultCapabilities.map String.toList).all fun name => knownNames.contains name) = true := by
    decide +kernel
  intro name hname
  exact contains_iff_mem.mp (all_eq_true.mp hall name hname)

theorem commaList_known (h : name ∈ knownNames) : commaList name = [name] := by
  obtain ⟨-, hne, hchars⟩ := knownNames_plain h
  exact commaList_of_plain (fun hc => (hchars _ hc).2.1 rfl) (trim_eq_self fun c hc => (hchars c hc).2.2) hne

theorem capNameToNumber_known (h : name ∈ knownNames) : capNameToNumber name = capNumber name := by
  rw [capNameToNumber, stripStart, if_neg (mt isPrefixOf_iff_prefix.mp (knownNames_plain h).1), getD_none]

theorem capStart_plain : ∀ c ∈ capStart, c.toNat < 128 ∧ c ≠ ',' ∧ isWhitespace c = false := by
  have hall : capStart.all isPlain = true := by decide
  exact fun c hc => isPlain_iff.mp (all_eq_true.mp hall c hc)

theorem ascii_of_toUpper (h : c.toUpper.toNat < 128) : c.toNat < 128 := by
  delta Char.toUpper at h
  split at h
  · next hletter => exact Nat.lt_of_le_of_lt hletter.2 (by decide)
  · exact h

/-- The upper-case form of an entry is its name, with the beginning before it or without. -/
theorem map_toUpper_eq (entry) :
    (capStart <+: (trim entry).map Char.toUpper ∧ (trim entry).map Char.toUpper = capStart ++ plainName entry) ∨
      (¬ capStart <+: (trim entry).map Char.toUpper ∧ (trim entry).map Char.toUpper = plainName entry) := by
  rw [plainName]
  by_cases hstart : capStart <+: (trim entry).map Char.toUpper
  · left
    obtain ⟨rest, hrest⟩ := hstart
    refine ⟨⟨rest, hrest⟩, ?_⟩
    simp [← hrest, stripStart]
  · right
    refine ⟨hstart, ?_⟩
    simp [stripStart, hstart]

section Reading

variable {host : Host} (hupper : ∀ c : Char, c.toNat < 128 → host.toUppercase c = [c.toUpper])
include hupper

theorem flatMap_toUppercase {s : List Char} (h : ∀ c ∈ s, c.toNat < 128) :
    s.flatMap host.toUppercase = s.map Char.toUpper := by
  induction s with
  | nil => rfl
  | cons c _ ih =>
    rw [flatMap_cons, hupper c (h c mem_cons_self), ih fun d hd => h d (mem_cons_of_mem _ hd)]
    rfl

variable (h : Spelled entry)

include h

/-- **The host reads the name of an entry, and keeps a beginning that is not in upper case.** -/
theorem normalize_eq : (Loose entry ∧ normalizeCapability host entry = capStart ++ plainName entry) ∨
      (¬ Loose entry ∧ normalizeCapability host entry = plainName entry) := by
  have hname := (knownNames_plain (plainName_mem h)).2.2
  have hascii : ∀ c ∈ trim entry, c.toNat < 128 := by
    intro c hc
    have hmem : c.toUpper ∈ (trim entry).map Char.toUpper := mem_map_of_mem hc
    refine ascii_of_toUpper ?_
    rcases map_toUpper_eq entry with ⟨-, heq⟩ | ⟨-, heq⟩
    · rw [heq, mem_append] at hmem
      rcases hmem with hmem | hmem
      · exact (capStart_plain _ hmem).1
      · exact (hname _ hmem).1
    · exact (hname _ (heq ▸ hmem)).1
  by_cases hexact : capStart <+: trim entry
  · right
    refine ⟨fun hloose => hloose.2 hexact, ?_⟩
    obtain ⟨rest, hrest⟩ := hexact
    have hrestAscii : ∀ c ∈ rest, c.toNat < 128 := fun c hc => hascii c (hrest ▸ mem_append_right _ hc)
    simp only [normalizeCapability, plainName, ← hrest]
    exact flatMap_toUppercase hupper hrestAscii
  · have hwhole : normalizeCapability host entry = (trim entry).map Char.toUpper := by
      simp only [normalizeCapability, stripStart, isPrefixOf_iff_prefix, hexact]
      exact flatMap_toUppercase hupper hascii
    rw [hwhole]
    rcases map_toUpper_eq entry with ⟨hstart, heq⟩ | ⟨hstart, heq⟩
    · exact .inl ⟨⟨hstart, hexact⟩, heq⟩
    · exact .inr ⟨fun hloose => hstart hloose.1, heq⟩

/-- The host takes an entry for all capabilities exactly if it names them and its beginning is not loose. -/
theorem normalize_eq_all : normalizeCapability host entry = "ALL".toList ↔ NamesAll entry ∧ ¬ Loose entry := by
  rcases normalize_eq hupper h with ⟨hloose, heq⟩ | ⟨hloose, heq⟩
  · rw [heq]
    refine iff_of_false ?_ fun hall => hall.2 hloose
    intro hall
    have hlen := congrArg List.head? hall
    cases hlen
  · rw [heq]
    exact ⟨fun hall => ⟨hall, hloose⟩, fun hall => hall.1⟩

/-- The host takes an entry for a capability of the default set exactly if it names it and does not begin loosely. -/
theorem normalize_eq_name (hname : capNumber name = some n) :
    normalizeCapability host entry = name ↔ Names entry n ∧ ¬ Loose entry := by
  have hmem : name ∈ knownNames := by
    obtain ⟨hlt, heq, -⟩ := List.idxOf?_eq_some_iff.mp hname
    exact mem_cons_of_mem _ (heq ▸ getElem_mem hlt)
  rcases normalize_eq hupper h with ⟨hloose, heq⟩ | ⟨hloose, heq⟩
  · rw [heq]
    refine iff_of_false ?_ fun hn => hn.2 hloose
    intro hname'
    exact (knownNames_plain hmem).1 (hname' ▸ prefix_append _ _)
  · rw [heq]
    constructor
    · rintro rfl
      exact ⟨hname, hloose⟩
    · rintro ⟨hn, -⟩
      exact capNumber_injective hn hname

theorem capNameToNumber_normalize (n) :
    capNameToNumber (normalizeCapability host entry) = some n ↔ Names entry n := by
  rcases normalize_eq hupper h with ⟨-, heq⟩ | ⟨-, heq⟩
  · rw [heq, capNameToNumber, stripStart, if_pos (List.isPrefixOf_iff_prefix.mpr (prefix_append _ _)),
      drop_left, getD_some, Names]
  · rw [heq, capNameToNumber_known (plainName_mem h), Names]

theorem commaList_normalize : commaList (normalizeCapability host entry) = [normalizeCapability host entry] := by
  obtain ⟨-, hne, hchars⟩ := knownNames_plain (plainName_mem h)
  have hall : normalizeCapability host entry ≠ [] ∧
      ∀ c ∈ normalizeCapability host entry, c ≠ ',' ∧ isWhitespace c = false := by
    rcases normalize_eq hupper h with ⟨-, heq⟩ | ⟨-, heq⟩
    · rw [heq]
      refine ⟨append_ne_nil_of_right_ne_nil _ hne, forall_mem_append.mpr ⟨fun c hc => ?_, fun c hc => ?_⟩⟩
      · exact (capStart_plain c hc).2
      · exact (hchars c hc).2
    · rw [heq]
      exact ⟨hne, fun c hc => (hchars c hc).2⟩
  exact commaList_of_plain (fun hc => (hall.2 _ hc).1 rfl) (trim_eq_self fun c hc => (hall.2 c hc).2) hall.1

omit h

/-! ### The kept set -/

variable {add drop : List (List Char)} (hadd : ∀ entry ∈ add, Spelled entry) (hdrop : ∀ entry ∈ drop, Spelled entry)

theorem all_mem_map (h : ∀ entry ∈ entries, Spelled entry) :
    "ALL".toList ∈ entries.map (normalizeCapability host) ↔ HasPlainAll entries := by
  rw [List.mem_map]
  exact exists_congr fun entry => and_congr_right fun hentry => normalize_eq_all hupper (h entry hentry)

theorem name_mem_map (h : ∀ entry ∈ entries, Spelled entry) (hname : capNumber name = some n) :
    name ∈ entries.map (normalizeCapability host) ↔ HasPlainName entries n := by
  rw [List.mem_map]
  exact exists_congr fun entry => and_congr_right fun hentry => normalize_eq_name hupper (h entry hentry) hname

include hadd in
theorem keptCapabilities_eq_none : keptCapabilities host (some ⟨add, drop⟩) = none ↔ HasPlainAll add := by
  rw [← all_mem_map hupper hadd, keptCapabilities]
  simp only [List.contains_iff_mem]
  split_ifs with hall
  · exact iff_of_true rfl hall
  · exact iff_of_false not_false hall

include hdrop in
theorem mem_kept (h : keptCapabilities host (some ⟨add, drop⟩) = some kept) (name) :
    name ∈ kept ↔ (name ∈ defaultCapabilities.map String.toList ∧ ¬ HasPlainAll drop ∧
      name ∉ drop.map (normalizeCapability host)) ∨ name ∈ add.map (normalizeCapability host) := by
  rw [keptCapabilities] at h
  simp only [List.contains_iff_mem] at h
  rw [← all_mem_map hupper hdrop]
  split_ifs at h with hall hdropAll
  · cases h
    rw [List.mem_insertionSort, List.mem_dedup, List.mem_append]
    exact or_congr_left (iff_of_false List.not_mem_nil fun hkept => hkept.2.1 hdropAll)
  · cases h
    rw [List.mem_insertionSort, List.mem_dedup, List.mem_append, List.mem_filter, Bool.not_eq_true',
      ← Bool.not_eq_true, List.contains_iff_mem]
    exact or_congr_left (and_congr_right fun _ => ⟨fun hnot => ⟨hdropAll, hnot⟩, fun hkept => hkept.2⟩)

include hadd hdrop in
/-- **The guest keeps what remains of the default set, and what is added by name.** -/
theorem getLsbD_kept (h : keptCapabilities host (some ⟨add, drop⟩) = some kept) (n) :
    (keepMask (commaList (joinWith ',' kept))).getLsbD n = true ↔ Remains drop n ∨ HasName add n := by
  have hself : ∀ name ∈ kept, commaList name = [name] := by
    intro name hname
    rcases (mem_kept hupper hdrop h name).mp hname with ⟨hdefault, -⟩ | hadded
    · exact commaList_known (defaults_known name hdefault)
    · obtain ⟨entry, hentry, rfl⟩ := List.mem_map.mp hadded
      exact commaList_normalize hupper (hadd entry hentry)
  rw [commaList_joinWith, List.flatMap_congr hself, List.flatMap_singleton', keepMask, getLsbD_foldl_capBit,
    BitVec.getLsbD_zero, List.mem_filterMap]
  simp only [Bool.false_eq_true, false_or]
  constructor
  · rintro ⟨-, name, hname, hnumber⟩
    rcases (mem_kept hupper hdrop h name).mp hname with ⟨hdefault, hnot, hnotName⟩ | hadded
    · left
      rw [capNameToNumber_known (defaults_known name hdefault)] at hnumber
      obtain ⟨text, htext, rfl⟩ := List.mem_map.mp hdefault
      exact ⟨⟨text, htext, hnumber⟩, hnot, fun hplain => hnotName ((name_mem_map hupper hdrop hnumber).mpr hplain)⟩
    · obtain ⟨entry, hentry, rfl⟩ := List.mem_map.mp hadded
      exact .inr ⟨entry, hentry, (capNameToNumber_normalize hupper (hadd entry hentry) n).mp hnumber⟩
  · rintro (⟨⟨text, htext, hnumber⟩, hnot, hnotName⟩ | ⟨entry, hentry, hnames⟩)
    · have hdefault : text.toList ∈ defaultCapabilities.map String.toList := List.mem_map_of_mem htext
      refine ⟨(capNumber_lt hnumber).trans (by decide), text.toList, ?_, ?_⟩
      · exact (mem_kept hupper hdrop h _).mpr
          (.inl ⟨hdefault, hnot, fun hmem => hnotName ((name_mem_map hupper hdrop hnumber).mp hmem)⟩)
      · rw [capNameToNumber_known (defaults_known _ hdefault), hnumber]
    · refine ⟨(capNumber_lt hnames).trans (by decide), _, ?_,
        (capNameToNumber_normalize hupper (hadd entry hentry) n).mpr hnames⟩
      exact (mem_kept hupper hdrop h _).mpr (.inr (List.mem_map_of_mem hentry))

end Reading

/-! ### The set that is asked for -/

theorem hasAll_of_plain (h : HasPlainAll entries) : HasAll entries := by
  obtain ⟨entry, hentry, hall, -⟩ := h
  exact ⟨entry, hentry, hall⟩

theorem hasName_of_plain (h : HasPlainName entries n) : HasName entries n := by
  obtain ⟨entry, hentry, hname, -⟩ := h
  exact ⟨entry, hentry, hname⟩

theorem hasName_lt (h : HasName entries n) : n < 41 := by
  obtain ⟨_, -, hname⟩ := h
  exact capNumber_lt hname

theorem isDefault_lt (h : IsDefault n) : n < 41 := by
  obtain ⟨_, -, hname⟩ := h
  exact capNumber_lt hname

/-- What remains and what is added is what is asked for, exactly where no entry is read in another way than meant. -/
theorem remains_or_hasName_iff (add drop : List (List Char)) (n) :
    (Remains drop n ∨ HasName add n ↔ Wanted add drop n) ↔
      ¬ Overlaps add drop n ∧ ¬ DropSlips add drop n ∧ ¬ AllSlips add drop n := by
  by_cases hlt : n < 41
  · rw [Overlaps, DropSlips, AllSlips, Wanted, Added]
    by_cases hname : HasName add n
    · by_cases hall : HasAll drop <;> simp [hlt, hname]
    · by_cases hall : HasAll drop
      · by_cases hremains : Remains drop n <;> by_cases hadd : HasAll add <;> simp [hlt, hname, hall, hremains]
      · -- nothing is dropped at once, so a default capability remains unless it is dropped by a plain entry
        have hremains : Remains drop n ↔ IsDefault n ∧ ¬ HasPlainName drop n :=
          and_congr_right fun _ => and_iff_right fun hplain => hall (hasAll_of_plain hplain)
        rw [hremains]
        by_cases hdropped : HasName drop n
        · by_cases hdefault : IsDefault n <;> simp [hname, hall, hdropped]
        · have hplain : ¬ HasPlainName drop n := fun hplain => hdropped (hasName_of_plain hplain)
          by_cases hdefault : IsDefault n <;> by_cases hadd : HasAll add <;>
            simp [hlt, hname, hall, hdropped, hplain]
  · have hname : ¬ HasName add n := fun h => hlt (hasName_lt h)
    have hremains : ¬ Remains drop n := fun h => hlt (isDefault_lt h.1)
    simp [Overlaps, DropSlips, AllSlips, Wanted, hlt, hname, hremains]

theorem not_wanted_of_dropped {add drop} (hdropped : HasName drop n) (hadd : ¬ Added add n) : ¬ Wanted add drop n := by
  rintro ⟨-, hall, hnot⟩
  by_cases h : HasAll drop
  · exact hadd (hall h)
  · exact (hnot h).2 hdropped

/-! ### The word of the main process -/

section Main

variable {host : Host} {image : ImageConfig} {rootfs : List Char} {config : ContainerConfig} {launch : Launch}

theorem envMask_container (h : createContainer host image rootfs config = .ok launch) :
    envMask launch.toExecRequest.env =
      match config.securityContext.bind (capabilitiesToKeep host) with
      | some kept => keepMask (commaList (joinWith ',' kept))
      | none => fullMask := by
  have hkeep : envValue .capKeep launch.toExecRequest.env =
      (config.securityContext.bind (capabilitiesToKeep host)).map (joinWith ',') := by
    rw [envValue_container h, lookup_rows host config (by decide)]
    cases config.securityContext <;> rfl
  have hdrop : envValue .capDrop launch.toExecRequest.env = none := by
    rw [envValue_container h, lookup_rows host config (by decide)]
    cases config.securityContext <;> rfl
  rw [envMask, capKeep, capDrop, hkeep, hdrop]
  cases config.securityContext.bind (capabilitiesToKeep host) <;> rfl

variable (hupper : ∀ c : Char, c.toNat < 128 → host.toUppercase c = [c.toUpper])
  (hcreated : createContainer host image rootfs config = .ok launch)
  (hprivileged : ∀ sc ∈ config.securityContext, sc.privileged = false)
  (hspelled : ∀ entry ∈ config.add ++ config.drop, Spelled entry)
include hupper hcreated hprivileged hspelled

/-- If the program keeps all capabilities the word is full, and otherwise it has what remains and what is added. -/
theorem getLsbD_mainMask (n) : (config.KeepsAll → ((mainMask launch).getLsbD n = true ↔ n < 41)) ∧
      (¬ config.KeepsAll → ((mainMask launch).getLsbD n = true ↔ Remains config.drop n ∨ HasName config.add n)) := by
  have hadd : ∀ entry ∈ config.add, Spelled entry := fun entry h => hspelled entry (mem_append_left _ h)
  have hdrop : ∀ entry ∈ config.drop, Spelled entry := fun entry h => hspelled entry (mem_append_right _ h)
  obtain ⟨-, -, htty⟩ := createContainer_ok hcreated
  rw [mainMask, htty, envMask_container hcreated]
  by_cases hterminal : config.tty = true
  · rw [if_pos hterminal]
    exact ⟨fun _ => getLsbD_fullMask n, fun hnot => absurd (.inr (.inl hterminal)) hnot⟩
  · rw [if_neg hterminal]
    rcases hsc : config.securityContext with _ | sc
    · refine ⟨fun _ => getLsbD_fullMask n, fun hnot => absurd (.inl ?_) hnot⟩
      rw [hsc, isNone_none]
    · have hkeep : capabilitiesToKeep host sc = keptCapabilities host (some ⟨config.add, config.drop⟩) := by
        rw [capabilitiesToKeep, hprivileged sc hsc, ContainerConfig.add, ContainerConfig.drop, hsc]
        rcases hcaps : sc.capabilities with _ | _ <;> simp [keptCapabilities, hcaps]
      rw [bind_some, hkeep]
      rcases hkept : keptCapabilities host (some ⟨config.add, config.drop⟩) with _ | _
      · have hall := (keptCapabilities_eq_none hupper hadd).mp hkept
        exact ⟨fun _ => getLsbD_fullMask n, fun hnot => absurd (.inr (.inr hall)) hnot⟩
      · have hkeeps : ¬ config.KeepsAll := by
          rintro (hnone | htrue | hall)
          · rw [hsc] at hnone
            cases hnone
          · exact hterminal htrue
          · rw [(keptCapabilities_eq_none hupper hadd).mpr hall] at hkept
            cases hkept
        exact ⟨fun h => absurd h hkeeps, fun _ => getLsbD_kept hupper hadd hdrop hkept n⟩

/-- The word of the main process is right exactly if the lists agree with the program. -/
theorem keptRight_iff : KeptRight (mainMask launch) config.add config.drop ↔ config.ListsAgree := by
  have hbits := fun n => getLsbD_mainMask hupper hcreated hprivileged hspelled n
  have hright : KeptRight (mainMask launch) config.add config.drop ↔
      ∀ n, (mainMask launch).getLsbD n = true ↔ Wanted config.add config.drop n := by
    refine and_iff_left_of_imp fun h n hdropped hadd => ?_
    exact Bool.eq_false_iff.mpr (mt (h n).mp (not_wanted_of_dropped hdropped hadd))
  rw [hright]
  by_cases hkeeps : config.KeepsAll
  · have hfull : config.ListsAgree ↔ ∀ n < 41, Wanted config.add config.drop n :=
      ⟨fun h => h.1 hkeeps, fun h => ⟨fun _ => h, fun hnot => absurd hkeeps hnot⟩⟩
    rw [hfull]
    refine forall_congr' fun n => ?_
    rw [(hbits n).1 hkeeps]
    exact ⟨fun h hlt => h.mp hlt, fun h => ⟨h, fun hwanted => hwanted.1⟩⟩
  · have hparts : config.ListsAgree ↔ ∀ n, ¬ Overlaps config.add config.drop n ∧
        ¬ DropSlips config.add config.drop n ∧ ¬ AllSlips config.add config.drop n :=
      ⟨fun h => h.2 hkeeps, fun h => ⟨fun hyes => absurd hyes hkeeps, fun _ => h⟩⟩
    rw [hparts]
    refine forall_congr' fun n => ?_
    rw [(hbits n).2 hkeeps]
    exact remains_or_hasName_iff _ _ n

end Main

/-- **The main process of a container that is not privileged keeps exactly the capabilities that are asked for, and none
that is only dropped, if and only if the lists agree with the program.** -/
theorem mainMask_iff {host : Host} (hupper : ∀ c : Char, c.toNat < 128 → host.toUppercase c = [c.toUpper])
    {image : ImageConfig} {rootfs : List Char} {config : ContainerConfig} {launch : Launch}
    (hcreated : createContainer host image rootfs config = .ok launch)
    (hprivileged : ∀ sc ∈ config.securityContext, sc.privileged = false)
    (hspelled : ∀ entry ∈ config.add ++ config.drop, Spelled entry) :
    (∀ machine masks process, (startContainer machine masks launch).2 = .ok process →
      process.bounding = mainMask launch) ∧
    (KeptRight (mainMask launch) config.add config.drop ↔ config.ListsAgree) := by
  refine ⟨fun machine masks process h => ?_, keptRight_iff hupper hcreated hprivileged hspelled⟩
  rw [startContainer] at h
  rw [mainMask]
  split_ifs at h ⊢
  · exact (ptyStart_envelope h).1
  · exact (execStart_envelope h).1

/-- A host without profiles. -/
def plainHost : Host := ⟨fun c => [c.toUpper], none, fun _ => .error "not found", fun _ => .error "no profile"⟩

/-- A security context with two lists of capabilities and nothing else. -/
def listsContext (add drop : List String) : SecurityContext where
  capabilities := some ⟨add.map String.toList, drop.map String.toList⟩
  privileged := false
  runAsUser := none
  runAsGroup := none
  runAsUsername := []
  readonlyRootfs := false
  supplementalGroups := []
  noNewPrivs := false
  maskedPaths := []
  readonlyPaths := []
  seccomp := none
  apparmor := none
  apparmorProfile := []

/-- A container that runs `id`. -/
def idConfig (securityContext : Option SecurityContext) : ContainerConfig :=
  ⟨["id".toList], [], [], [], none, securityContext, false⟩

/-- An image that says nothing. -/
def bareImage : ImageConfig := ⟨none, none, [], none, none⟩

/-- The container that is created from such a configuration. -/
def idLaunch (securityContext : Option SecurityContext) : Launch where
  cmd := ["id".toList]
  plain := []
  entries := present (rows plainHost (idConfig securityContext))
  workingDir := []
  user := securityContext.bind containerUser
  tty := false
  rootfsGuestPath := "/run/a3s/c".toList

theorem net_admin_only : KeptRight (mainMask (idLaunch (some (listsContext ["cap_net_admin"] ["ALL"]))))
    ["cap_net_admin".toList] ["ALL".toList] ∧
      mainMask (idLaunch (some (listsContext ["cap_net_admin"] ["ALL"]))) = capBit 12 := by
  have hspelled : ∀ entry ∈ ["cap_net_admin".toList] ++ ["ALL".toList], Spelled entry := by
    exact forall_mem_cons.mpr
      ⟨.inr ⟨12, by decide +kernel⟩, forall_mem_singleton.mpr (.inl (by decide +kernel))⟩
  have hdrop : HasPlainAll ["ALL".toList] := by decide +kernel
  have hadd : ¬ HasAll ["cap_net_admin".toList] := by decide +kernel
  have hkeeps : ¬ (idConfig (some (listsContext ["cap_net_admin"] ["ALL"]))).KeepsAll := by
    rintro (h | h | h)
    · cases h
    · cases h
    · exact hadd (hasAll_of_plain h)
  refine ⟨?_, by decide +kernel⟩
  refine (@mainMask_iff plainHost (fun _ _ => rfl) bareImage "/run/a3s/c".toList
    (idConfig (some (listsContext ["cap_net_admin"] ["ALL"]))) _ rfl ?_ hspelled).2.mpr ?_
  · rintro sc ⟨⟩
    rfl
  · refine ⟨fun h => absurd h hkeeps, fun _ n => ⟨fun h => h.1 (hasAll_of_plain hdrop), fun h => h.1.2.1 hdrop, ?_⟩⟩
    exact fun h => hadd h.2.1

/-- **A container without a security context keeps all capabilities, and one that drops `cap_chown` keeps it.** -/
theorem lower_case_not_dropped : (mainMask (idLaunch none) = fullMask ∧ ¬ KeptRight (mainMask (idLaunch none)) [] []) ∧
      (mainMask (idLaunch (some (listsContext [] ["cap_chown"])))).getLsbD 0 = true ∧
      ¬ KeptRight (mainMask (idLaunch (some (listsContext [] ["cap_chown"])))) [] ["cap_chown".toList] := by
  have hfull : mainMask (idLaunch none) = fullMask := by decide +kernel
  have hchown : (mainMask (idLaunch (some (listsContext [] ["cap_chown"])))).getLsbD 0 = true := by decide +kernel
  refine ⟨⟨hfull, fun h => ?_⟩, hchown, fun h => ?_⟩
  · -- capability 21 is `SYS_ADMIN`
    obtain ⟨-, -, hnot⟩ := (h.1 21).mp (by decide +kernel)
    have hadded : ¬ (IsDefault 21 ∨ Added [] 21) := by
      rintro (h | h | h)
      all_goals exact absurd h (by decide +kernel)
    exact hadded (hnot (by decide +kernel)).1
  · have hdropped : HasName ["cap_chown".toList] 0 := by decide +kernel
    have hadded : ¬ Added [] 0 := by
      rintro (h | h)
      all_goals exact absurd h (by decide +kernel)
    rw [h.2 0 hdropped hadded] at hchown
    cases hchown

end A3sBox.Cri
