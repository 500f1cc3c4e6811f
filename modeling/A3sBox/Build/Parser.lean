import A3sBox.Build.Dockerfile
import A3sBox.Core.Error
import A3sBox.Library.Lines
import A3sBox.Library.Slices
import Mathlib.Data.List.TakeWhile

/-!
# The parser of Dockerfiles

`runtime/src/oci/build/dockerfile`: lines are joined where they end with `\`, and each that is not empty and no
comment is parsed as one instruction.

## The model

Text is a list of characters; a call returns a value, an error or a panic, and a missing slice or element is a panic
(`orPanic`). `Lib` is what is not in the repository: the reader of JSON, and the upper-case forms of Unicode. Line
numbers are natural numbers.
-/

namespace A3sBox.Build.Parser

open Text Slices List

/-- What is not in the repository. -/
structure Lib where
  toUppercase : Char → List Char
  jsonArray : List Char → Except String (List String)

/-- What a parser returns: a value, an error or a panic. -/
abbrev Parsed (α : Type) := Except (Fault BoxError) α

/-- What is missing is a panic. -/
def orPanic {α : Type} : Option α → Parsed α
  | some a => .ok a
  | none => .error .panic

/-- An error of a line. -/
def fail {α : Type} (lineNum : ℕ) (text : String) : Parsed α :=
  .error (.error (.buildError s!"Line {lineNum}: {text}"))

/-! ### Helpers -/

section

variable (s : List Char)

/-- The first word and the rest. -/
def splitFirstWord : Parsed (List Char × List Char) :=
  let s := trim s
  match find isWhitespace s with
  | some pos => do
    let (word, _) ← orPanic (splitAt pos s)
    let (_, rest) ← orPanic (splitAt pos s)
    .ok (word, trimStart rest)
  | none => .ok (s, [])

/-- Read a list of strings. -/
def parseJsonArray (lib : Lib) (s : List Char) (lineNum : ℕ) : Parsed (List String) :=
  match lib.jsonArray s with
  | .ok parsed => .ok parsed
  | .error e =>
    let text := String.ofList s
    fail lineNum s!"Invalid JSON array '{text}': {e}"

/-- A text without the quotes around it. -/
def unquote : Parsed String := do
  let s := trim s
  if (s.head? = some '"' ∧ s.getLast? = some '"') ∨ (s.head? = some '\'' ∧ s.getLast? = some '\'') then
    let inner ← orPanic (slice 1 (byteLen s - 1) s)
    .ok (String.ofList inner)
  else .ok (String.ofList s)

/-- The words of a text. -/
def shellSplit : List (List Char) := splitWhitespace s

/-- A decimal number with an optional point, as a floating-point number. -/
def parseF64 (num : List Char) : Option Float :=
  match pieces (fun c => c == '.') num with
  | [whole] => (parseInt (10 ^ whole.length) whole).toOption.map fun n => Float.ofScientific n false 0
  | [whole, fraction] =>
    if whole = [] ∧ fraction = [] then none
    else (parseInt (10 ^ num.length) (whole ++ fraction)).toOption.map fun n => Float.ofScientific n true fraction.length
  | _ => none

/-- The seconds of a unit of time. -/
def unitSecs (unit : List Char) : Option Float :=
  match String.ofList unit with
  | "ns" => some 1e-9
  | "us" | "µs" => some 1e-6
  | "ms" => some 1e-3
  | "s" => some 1.0
  | "m" => some 60.0
  | "h" => some 3600.0
  | _ => none

/-- It may be part of a unit. -/
def isUnitChar (c : Char) : Bool := c.isAlpha || c == 'µ'

/-- The loop of `parse_duration_secs`: what is left, the number and the seconds so far, and whether there was a unit. -/
def durationLoop (s num : List Char) (total : Float) (sawUnit : Bool) : Option Float :=
  match s with
  | [] => if num ≠ [] ∨ sawUnit = false then none else some total
  | c :: rest =>
    if c.isDigit || c == '.' then durationLoop rest (num ++ [c]) total sawUnit
    else if _hunit : isUnitChar c = false ∨ num = [] then none
    else
      match parseF64 num, unitSecs ((c :: rest).takeWhile isUnitChar) with
      | some value, some secs => durationLoop ((c :: rest).dropWhile isUnitChar) [] (total + value * secs) true
      | _, _ => none
termination_by s.length
decreasing_by
  · simp
  · have hc : isUnitChar c = true := by simpa using (not_or.mp _hunit).1
    rw [List.dropWhile_cons, if_pos hc]
    exact Nat.lt_succ_of_le (List.dropWhile_suffix isUnitChar).length_le

/-- Read a duration. -/
def parseDurationSecs (lineNum : ℕ) : Parsed ℕ :=
  let s := trim s
  if s = [] then .ok 0
  else
    match parseInt (2 ^ 64 - 1) s with
    | .ok n => .ok n
    | .error _ =>
      match durationLoop s [] 0 false with
      | some total => .ok total.round.toUInt64.toNat
      | none =>
        let text := String.ofList s
        fail lineNum s!"Invalid duration '{text}'"

/-- The tokens of a text, cut at white space outside quotes; the arguments are the variables of the loop. -/
def tokenizeLoop (current : List Char) (quote : Option Char) (hasContent : Bool) : List Char → List (List Char)
  | [] => if hasContent then [current] else []
  | c :: s =>
    match quote with
    | some q => tokenizeLoop (current ++ [c]) (if c = q then none else some q) hasContent s
    | none =>
      if c = '"' ∨ c = '\'' then tokenizeLoop (current ++ [c]) (some c) true s
      else if isWhitespace c then
        if hasContent then current :: tokenizeLoop [] none false s else tokenizeLoop current none false s
      else tokenizeLoop (current ++ [c]) none true s

/-- The tokens of a text, cut at white space outside quotes. -/
def tokenizeQuoted : List (List Char) := tokenizeLoop [] none false s

/-! ### The first word -/

theorem splitFirstWord_eq : splitFirstWord s = .ok ((trim s).takeWhile (fun c => !isWhitespace c),
      trimStart ((trim s).dropWhile fun c => !isWhitespace c)) := by
  unfold splitFirstWord
  dsimp only
  cases hfind : find isWhitespace (trim s) with
  | some => simp [splitAt_of_find hfind, orPanic, bind, Except.bind]
  | none =>
    have hnone := find_eq_none.mp hfind
    have htake : (trim s).takeWhile (fun c => !isWhitespace c) = trim s :=
      takeWhile_eq_self_iff.mpr fun c hc => by simp [hnone c hc]
    have hdrop : (trim s).dropWhile (fun c => !isWhitespace c) = [] :=
      dropWhile_eq_nil_iff.mpr fun c hc => by simp [hnone c hc]
    simp [htake, hdrop, trimStart]

end

variable {s : List Char}

theorem trimStart_dropWhile_length (hne : s ≠ []) :
    (trimStart (s.dropWhile fun c => !isWhitespace c)).length < s.length := by
  cases s with
  | nil => exact absurd rfl hne
  | cons c s =>
    by_cases hc : isWhitespace c = true
    · have hdrop : (c :: s).dropWhile (fun c => !isWhitespace c) = c :: s := by simp [hc]
      rw [hdrop, trimStart, dropWhile_cons, if_pos hc]
      exact Nat.lt_succ_of_le (dropWhile_suffix _).length_le
    · have hdrop : (c :: s).dropWhile (fun c => !isWhitespace c) = s.dropWhile fun c => !isWhitespace c := by simp [hc]
      rw [hdrop]
      exact Nat.lt_succ_of_le ((trimStart_length_le _).trans (dropWhile_suffix _).length_le)

/-- What comes after the first word is shorter than the text. -/
theorem splitFirstWord_length {word rest} (h : splitFirstWord s = .ok (word, rest)) (hne : s ≠ []) :
    rest.length < s.length := by
  rw [splitFirstWord_eq] at h
  cases h
  by_cases htrim : trim s = []
  · rw [htrim]
    exact length_pos_iff.mpr hne
  · exact (trimStart_dropWhile_length htrim).trans_le (trim_length_le s)

theorem flag_length {remaining flag after} (hflag : "--".toList.isPrefixOf (trimStart remaining) = true)
    (hsplit : splitFirstWord (trimStart remaining) = .ok (flag, after)) : after.length < remaining.length := by
  have hne : trimStart remaining ≠ [] := by
    intro hnil
    rw [hnil] at hflag
    exact Bool.noConfusion hflag
  exact (splitFirstWord_length hsplit hne).trans_le (trimStart_length_le remaining)

/-! ### The instructions -/

/-- A command for the shell. -/
def shellForm (command : List Char) : List String := ["/bin/sh", "-c", String.ofList command]

variable (lib : Lib) (rest : List Char) (lineNum : ℕ)

/-- A command in JSON or in shell form. -/
def parseExec : Parsed (List String) :=
  if rest.head? = some '[' then parseJsonArray lib rest lineNum else .ok (shellForm rest)

/-- `FROM`. -/
def parseFrom : Parsed Instruction := do
  if rest = [] then fail lineNum "FROM requires an image argument" else
    let parts := splitn isWhitespace 3 rest
    let named ← if 3 ≤ parts.length then do
        let word ← orPanic parts[1]?
        .ok (eqIgnoreAsciiCase word "AS".toList)
      else .ok false
    if named then
      let image ← orPanic parts[0]?
      let name ← orPanic parts[2]?
      .ok (.fromImage (String.ofList image) (some (String.ofList (trim name))))
    else
      let image ← orPanic parts[0]?
      .ok (.fromImage (String.ofList image) none)

/-- `RUN`. -/
def parseRun : Parsed Instruction :=
  if rest = [] then fail lineNum "RUN requires a command"
  else if rest.head? = some '[' then fail lineNum "RUN exec form is not supported yet; use shell form"
  else .ok (.run (String.ofList rest))

/-- The flags of `COPY`, and what comes after them. -/
def parseCopyFlags (lineNum : ℕ) (remaining : List Char) (fromRef chown : Option String) :
    Parsed (Option String × Option String × List Char) :=
  if _hflag : "--".toList.isPrefixOf (trimStart remaining) then
    match _hsplit : splitFirstWord (trimStart remaining) with
    | .error fault => .error fault
    | .ok (flag, after) =>
      match stripStart "--from=".toList flag with
      | some stage =>
        if stage = [] then fail lineNum "COPY --from requires a stage name or index"
        else if fromRef.isSome then fail lineNum "COPY specifies --from more than once"
        else parseCopyFlags lineNum after (some (String.ofList stage)) chown
      | none =>
        match stripStart "--chown=".toList flag with
        | some owner => parseCopyFlags lineNum after fromRef (some (String.ofList owner))
        | none =>
          let flag := String.ofList flag
          fail lineNum s!"COPY flag '{flag}' is not supported (supported: --from=<stage>, --chown=user[:group])"
  else .ok (fromRef, chown, trimStart remaining)
termination_by remaining.length
decreasing_by
  all_goals exact flag_length _hflag _hsplit

/-- The flags of `ADD`, and what comes after them. -/
def parseAddFlags (lineNum : ℕ) (remaining : List Char) (chown : Option String) : Parsed (Option String × List Char) :=
  if _hflag : "--".toList.isPrefixOf (trimStart remaining) then
    match _hsplit : splitFirstWord (trimStart remaining) with
    | .error fault => .error fault
    | .ok (flag, after) =>
      match stripStart "--chown=".toList flag with
      | some owner => parseAddFlags lineNum after (some (String.ofList owner))
      | none =>
        let flag := String.ofList flag
        fail lineNum s!"ADD flag '{flag}' is not supported (supported: --chown=user[:group])"
  else .ok (chown, trimStart remaining)
termination_by remaining.length
decreasing_by exact flag_length _hflag _hsplit

/-- The sources and the destination. -/
def parseSources (keyword : String) (lineNum : ℕ) (remaining : List Char) : Parsed (List String × String) := do
  if remaining.head? = some '[' then fail lineNum s!"{keyword} JSON array form is not supported yet"
  else
    let parts := shellSplit remaining
    if parts.length < 2 then fail lineNum s!"{keyword} requires at least one source and a destination"
    else
      let dst ← orPanic parts[parts.length - 1]?
      .ok ((parts.take (parts.length - 1)).map String.ofList, String.ofList dst)

/-- `COPY`. -/
def parseCopy : Parsed Instruction := do
  if rest = [] then fail lineNum "COPY requires source and destination" else
    let (fromRef, chown, remaining) ← parseCopyFlags lineNum rest none none
    let (src, dst) ← parseSources "COPY" lineNum remaining
    .ok (.copy src dst fromRef chown)

/-- `ADD`. -/
def parseAdd : Parsed Instruction := do
  if rest = [] then fail lineNum "ADD requires source and destination" else
    let (chown, remaining) ← parseAddFlags lineNum rest none
    let (src, dst) ← parseSources "ADD" lineNum remaining
    .ok (.add src dst chown)

/-- `WORKDIR`. -/
def parseWorkdir : Parsed Instruction :=
  if rest = [] then fail lineNum "WORKDIR requires a path" else .ok (.workdir (String.ofList rest))

/-- The first `=` comes before the first white space. -/
def isKvForm (rest : List Char) : Bool :=
  match find (fun c => c == '=') rest, find isWhitespace rest with
  | some eq, some sp => eq < sp
  | some _, none => true
  | _, _ => false

/-- Pairs of a key and a value, of an instruction that calls them by a name. -/
def parsePairs (keyword shape : String) (lineNum : ℕ) : List (List Char) → Parsed (List (String × String))
  | [] => .ok []
  | token :: tokens =>
    match splitOnce '=' token with
    | some (key, value) =>
      if key = [] then
        let token := String.ofList token
        fail lineNum s!"invalid {keyword} token '{token}' (expected {shape})"
      else do
        let value ← unquote value
        let pairs ← parsePairs keyword shape lineNum tokens
        .ok ((String.ofList key, value) :: pairs)
    | none =>
      let token := String.ofList token
      fail lineNum s!"invalid {keyword} token '{token}' (expected {shape})"

/-- `ENV`. -/
def parseEnv : Parsed Instruction := do
  if rest = [] then fail lineNum "ENV requires a key and value"
  else if isKvForm rest then
    let vars ← parsePairs "ENV" "KEY=VALUE" lineNum (tokenizeQuoted rest)
    .ok (.env vars)
  else
    let (key, value) ← splitFirstWord rest
    .ok (.env [(String.ofList key, String.ofList value)])

/-- `LABEL`. -/
def parseLabel : Parsed Instruction := do
  if rest = [] then fail lineNum "LABEL requires key=value"
  else if isKvForm rest then
    let pairs ← parsePairs "LABEL" "key=value" lineNum (tokenizeQuoted rest)
    .ok (.label pairs)
  else
    let (key, value) ← splitFirstWord rest
    let value ← unquote value
    .ok (.label [(String.ofList key, value)])

/-- `ENTRYPOINT`. -/
def parseEntrypoint : Parsed Instruction := do
  if rest = [] then fail lineNum "ENTRYPOINT requires an argument" else
    let exec ← parseExec lib rest lineNum
    .ok (.entrypoint exec)

/-- `CMD`. -/
def parseCmd : Parsed Instruction := do
  if rest = [] then fail lineNum "CMD requires an argument" else
    let exec ← parseExec lib rest lineNum
    .ok (.cmd exec)

/-- `EXPOSE`. -/
def parseExpose : Parsed Instruction :=
  if rest = [] then fail lineNum "EXPOSE requires a port"
  else
    .ok (.expose ((splitWhitespace rest).map fun port =>
      if '/' ∈ port then String.ofList port else String.ofList port ++ "/tcp"))

/-- `USER`. -/
def parseUser : Parsed Instruction :=
  if rest = [] then fail lineNum "USER requires a username"
  else .ok (.user (String.ofList ((splitWhitespace rest).head?.getD rest)))

/-- `ARG`. -/
def parseArg : Parsed Instruction := do
  if rest = [] then fail lineNum "ARG requires a name"
  else
    match find (fun c => c == '=') rest with
    | some eqPos =>
      let (name, _) ← orPanic (splitAt eqPos rest)
      let (_, value) ← orPanic (splitAt (eqPos + 1) rest)
      let default ← unquote value
      .ok (.arg (String.ofList name) (some default))
    | none => .ok (.arg (String.ofList (trim rest)) none)

/-- `SHELL`. -/
def parseShell : Parsed Instruction := do
  if rest = [] then fail lineNum "SHELL requires a JSON array argument"
  else if rest.head? ≠ some '[' then
    fail lineNum "SHELL must use JSON array form (e.g., SHELL [\"/bin/bash\", \"-c\"])"
  else
    let exec ← parseJsonArray lib rest lineNum
    if exec = [] then fail lineNum "SHELL requires at least one element" else .ok (.shell exec)

/-- `STOPSIGNAL`. -/
def parseStopsignal : Parsed Instruction :=
  if rest = [] then fail lineNum "STOPSIGNAL requires a signal" else .ok (.stopSignal (String.ofList (trim rest)))

/-- `VOLUME`. -/
def parseVolume : Parsed Instruction := do
  if rest = [] then fail lineNum "VOLUME requires at least one path" else
    let paths ← if rest.head? = some '[' then parseJsonArray lib rest lineNum
      else .ok ((splitWhitespace rest).map String.ofList)
    if paths = [] then fail lineNum "VOLUME requires at least one path" else .ok (.volume paths)

/-- The options of `HEALTHCHECK`. -/
inductive HealthFlag where
  | interval
  | timeout
  | retries
  /-- The time at the beginning in which failures do not count. -/
  | startPeriod
  deriving DecidableEq

/-- An option as it is written. -/
def HealthFlag.text : HealthFlag → String
  | .interval => "--interval="
  | .timeout => "--timeout="
  | .retries => "--retries="
  | .startPeriod => "--start-period="

/-- What stands for the value of an option that does not begin as it should. -/
def HealthFlag.default : HealthFlag → String
  | .interval | .timeout => "30s"
  | .retries => "3"
  | .startPeriod => "0s"

/-- The option with which a text begins. -/
def healthFlag? (s : List Char) : Option HealthFlag :=
  [.interval, .timeout, .retries, .startPeriod].find? fun flag => flag.text.toList.isPrefixOf s

/-- The values of the options. -/
structure HealthOptions where
  interval : Option ℕ
  timeout : Option ℕ
  retries : Option ℕ
  startPeriod : Option ℕ

/-- Set an option. -/
def HealthOptions.set (o : HealthOptions) (value : ℕ) : HealthFlag → HealthOptions
  | .interval => { o with interval := some value }
  | .timeout => { o with timeout := some value }
  | .retries => { o with retries := some value }
  | .startPeriod => { o with startPeriod := some value }

/-- Read the value of an option. -/
def HealthFlag.parseValue (flag : HealthFlag) (value : List Char) (lineNum : ℕ) : Parsed ℕ :=
  match flag with
  | .retries =>
    match parseInt (2 ^ 32 - 1) value with
    | .ok n => .ok n
    | .error _ =>
      let value := String.ofList value
      fail lineNum s!"Invalid --retries value: {value}"
  | _ => parseDurationSecs value lineNum

theorem healthFlag?_ne_nil {flag} (h : healthFlag? s = some flag) : s ≠ [] := by
  rintro rfl
  revert h
  cases flag <;> decide

/-- The options, and what comes after them. -/
def parseHealthOptions (lineNum : ℕ) (remaining : List Char) (o : HealthOptions) : Parsed (HealthOptions × List Char) :=
  match _hflag : healthFlag? (trimStart remaining) with
  | none => .ok (o, remaining)
  | some flag =>
    match _hsplit : splitFirstWord (trimStart remaining) with
    | .error fault => .error fault
    | .ok (word, after) =>
      match flag.parseValue ((stripStart flag.text.toList word).getD flag.default.toList) lineNum with
      | .error fault => .error fault
      | .ok value => parseHealthOptions lineNum after (o.set value flag)
termination_by remaining.length
decreasing_by
  exact (splitFirstWord_length _hsplit (healthFlag?_ne_nil _hflag)).trans_le (trimStart_length_le remaining)

/-- `HEALTHCHECK`. -/
def parseHealthcheck : Parsed Instruction := do
  if rest = [] then fail lineNum "HEALTHCHECK requires CMD or NONE"
  else if eqIgnoreAsciiCase (trim rest) "NONE".toList then .ok (.healthCheck none none none none none)
  else
    let (o, remaining) ← parseHealthOptions lineNum rest ⟨none, none, none, none⟩
    let (keyword, cmdRest) ← splitFirstWord (trimStart remaining)
    if eqIgnoreAsciiCase keyword "CMD".toList = false then
      let keyword := String.ofList keyword
      fail lineNum s!"HEALTHCHECK expected CMD, got '{keyword}'"
    else if cmdRest = [] then fail lineNum "HEALTHCHECK CMD requires a command"
    else
      let cmd ← parseExec lib cmdRest lineNum
      .ok (.healthCheck (some cmd) o.interval o.timeout o.retries o.startPeriod)

/-- `MAINTAINER`, which is recorded as a label. -/
def parseMaintainer : Parsed Instruction :=
  if trim rest = [] then fail lineNum "MAINTAINER requires a value"
  else .ok (.label [("maintainer", String.ofList (trim rest))])

/-- `ONBUILD`, once its instruction is parsed. -/
def parseOnbuild (inner : Instruction) (lineNum : ℕ) : Parsed Instruction :=
  match inner with
  | .onBuild _ => fail lineNum "ONBUILD ONBUILD is not allowed"
  | .fromImage _ _ => fail lineNum "ONBUILD FROM is not allowed"
  | _ => .ok (.onBuild inner)

/-- Read a line. -/
def parseInstruction (lib : Lib) (line : List Char) (lineNum : ℕ) : Parsed Instruction :=
  match _hsplit : splitFirstWord line with
  | .error fault => .error fault
  | .ok (keyword, rest) =>
    match String.ofList (keyword.flatMap lib.toUppercase) with
    | "FROM" => parseFrom rest lineNum
    | "RUN" => parseRun rest lineNum
    | "COPY" => parseCopy rest lineNum
    | "WORKDIR" => parseWorkdir rest lineNum
    | "ENV" => parseEnv rest lineNum
    | "ENTRYPOINT" => parseEntrypoint lib rest lineNum
    | "CMD" => parseCmd lib rest lineNum
    | "EXPOSE" => parseExpose rest lineNum
    | "LABEL" => parseLabel rest lineNum
    | "USER" => parseUser rest lineNum
    | "ARG" => parseArg rest lineNum
    | "ADD" => parseAdd rest lineNum
    | "SHELL" => parseShell lib rest lineNum
    | "STOPSIGNAL" => parseStopsignal rest lineNum
    | "HEALTHCHECK" => parseHealthcheck lib rest lineNum
    | "ONBUILD" =>
      if _hrest : rest = [] then fail lineNum "ONBUILD requires an instruction"
      else
        match parseInstruction lib rest lineNum with
        | .error fault => .error fault
        | .ok inner => parseOnbuild inner lineNum
    | "VOLUME" => parseVolume lib rest lineNum
    | "MAINTAINER" => parseMaintainer rest lineNum
    | _ =>
      let keyword := String.ofList keyword
      fail lineNum s!"Unknown instruction '{keyword}'"
termination_by line.length
decreasing_by
  refine splitFirstWord_length _hsplit ?_
  rintro rfl
  cases _hsplit
  exact _hrest rfl

/-! ### The whole text -/

/-- A line without its end. -/
def lineText (line : List Char) : List Char :=
  if line.getLast? = some '\n' then
    let line := line.dropLast
    if line.getLast? = some '\r' then line.dropLast else line
  else line

/-- The lines of a text. -/
def lines (content : List Char) : List (List Char) := (Lines.lines '\n' content).map lineText

/-- Lines are joined where they end with a backslash; `current` is what was joined so far. -/
def joinLoop (current : List Char) : List (List Char) → List (List Char)
  | [] => if current = [] then [] else [current]
  | line :: lines =>
    if line.getLast? = some '\\' then joinLoop (current ++ trimEnd line.dropLast ++ [' ']) lines
    else (current ++ line) :: joinLoop [] lines

/-- The lines of a text, joined where they end with a backslash. -/
def joinContinuationLines (content : List Char) : List (List Char) := joinLoop [] (lines content)

/-- An empty line or a comment. -/
def skipped (line : List Char) : Bool := trim line = [] || (trim line).head? = some '#'

/-- The instructions of lines, of which the first has a number. -/
def parseLines (lib : Lib) (lineNum : ℕ) : List (List Char) → Parsed (List Instruction)
  | [] => .ok []
  | line :: lines =>
    if skipped line then parseLines lib (lineNum + 1) lines
    else do
      let instruction ← parseInstruction lib (trim line) lineNum
      let instructions ← parseLines lib (lineNum + 1) lines
      .ok (instruction :: instructions)

/-- An `ARG` instruction. -/
def isArg : Instruction → Bool
  | .arg _ _ => true
  | _ => false

/-- Read a Dockerfile. -/
def parse (lib : Lib) (content : String) : Parsed (List Instruction) := do
  let instructions ← parseLines lib 1 (joinContinuationLines content.toList)
  if instructions = [] then .error (.error (.buildError "Dockerfile is empty or contains no instructions"))
  else
    match instructions.find? fun instruction => !isArg instruction with
    | some (.fromImage _ _) => .ok instructions
    | _ => .error (.error (.buildError "First instruction must be FROM (or ARG before FROM)"))

end A3sBox.Build.Parser
