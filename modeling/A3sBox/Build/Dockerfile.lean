import A3sBox.Library.Text

/-!
# Instructions of a Dockerfile

`runtime/src/oci/build/dockerfile`, and `instruction_to_string` of the build engine,
which writes an instruction back as text: for the ONBUILD triggers of an image, and
for the keys of the build cache.

Lists of strings are written as the `{:?}` of the source language writes them. A
character outside ASCII is taken as printable.
-/

namespace A3sBox.Build

open Text

/-- An instruction. -/
inductive Instruction where
  | fromImage (image : String) (stage : Option String)
  | run (command : String)
  | copy (src : List String) (dst : String) (fromRef chown : Option String)
  | workdir (path : String)
  | env (vars : List (String × String))
  | entrypoint (exec : List String)
  | cmd (exec : List String)
  | expose (ports : List String)
  | label (pairs : List (String × String))
  | user (user : String)
  | arg (name : String) (default : Option String)
  | add (src : List String) (dst : String) (chown : Option String)
  | shell (exec : List String)
  | stopSignal (signal : String)
  | healthCheck (cmd : Option (List String)) (interval timeout retries startPeriod : Option ℕ)
  | onBuild (instruction : Instruction)
  | volume (paths : List String)
  deriving DecidableEq, Repr

/-- Texts with a text between them. -/
def join (separator : String) (texts : List String) : String := separator.intercalate texts

/-- A character in a quoted string. -/
def debugChar (c : Char) : List Char :=
  if c = '"' ∨ c = '\\' then ['\\', c]
  else if c = '\n' then ['\\', 'n']
  else if c = '\r' then ['\\', 'r']
  else if c = '\t' then ['\\', 't']
  else if c = '\x00' then ['\\', '0']
  else if c.toNat < 32 ∨ c.toNat = 127 then ['\\', 'u', '\x7b'] ++ Nat.toDigits 16 c.toNat ++ ['\x7d']
  else [c]

/-- A string as `{:?}` writes it. -/
def debugString (s : String) : String := String.ofList ('"' :: s.toList.flatMap debugChar ++ ['"'])

/-- A list of strings as `{:?}` writes it. -/
def debugList (texts : List String) : String := "[" ++ join ", " (texts.map debugString) ++ "]"

/-- Pairs as `ENV` and `LABEL` write them. -/
def joinPairs (pairs : List (String × String)) : String := join " " (pairs.map fun (k, v) => k ++ "=" ++ v)

/-- An option of an instruction, before its arguments. -/
def flag (name : String) : Option String → String
  | none => ""
  | some value => " --" ++ name ++ "=" ++ value

/-- An instruction as text. -/
def instructionToString : Instruction → String
  | .run command => "RUN " ++ command
  | .copy src dst fromRef chown =>
    "COPY" ++ flag "from" fromRef ++ flag "chown" chown ++ " " ++ join " " src ++ " " ++ dst
  | .add src dst chown => "ADD" ++ flag "chown" chown ++ " " ++ join " " src ++ " " ++ dst
  | .workdir path => "WORKDIR " ++ path
  | .env vars => "ENV " ++ joinPairs vars
  | .entrypoint exec => "ENTRYPOINT " ++ debugList exec
  | .cmd exec => "CMD " ++ debugList exec
  | .expose ports => "EXPOSE " ++ join " " ports
  | .label pairs => "LABEL " ++ joinPairs pairs
  | .user user => "USER " ++ user
  | .arg name (some default) => "ARG " ++ name ++ "=" ++ default
  | .arg name none => "ARG " ++ name
  | .shell exec => "SHELL " ++ debugList exec
  | .stopSignal signal => "STOPSIGNAL " ++ signal
  | .healthCheck (some cmd) _ _ _ _ => "HEALTHCHECK CMD " ++ join " " cmd
  | .healthCheck none _ _ _ _ => "HEALTHCHECK NONE"
  | .onBuild instruction => "ONBUILD " ++ instructionToString instruction
  | .volume paths => "VOLUME " ++ join " " paths
  | .fromImage image (some stage) => "FROM " ++ image ++ " AS " ++ stage
  | .fromImage image none => "FROM " ++ image

end A3sBox.Build
