import Judge.Text.Raw

/-!
Permissions of files: three groups of three bits, for the owner, a group and all others, as numbers
and in letters.
-/

namespace Judge.Host.Permission

/-- All bits. -/
def all : Nat := 0o777

/-- The permissions that are left when some are taken away. -/
def without (mode mask : Nat) : Nat := mode &&& (0o7777 ^^^ (mask &&& 0o7777))

/-- An octal number with no more than four digits or so. -/
def octal? (text : Raw) : Option Nat :=
  if text.isEmpty then none
  else text.foldl (fun n c =>
    n.bind fun n => if '0' ≤ c && c ≤ '7' then some (8 * n + (c.toNat - 48)) else none) (some 0)

/-- The groups that a letter means, each as its lowest bit. -/
def group? : Char → Option Nat
  | 'u' => some 0o100
  | 'g' => some 0o010
  | 'o' => some 0o001
  | 'a' => some 0o111
  | _ => none

/-- What is done with permissions. -/
inductive Change where
  | add
  | drop
  | assign
  deriving DecidableEq

/-- The change that a character means. -/
def change? : Char → Option Change
  | '+' => some .add
  | '-' => some .drop
  | '=' => some .assign
  | _ => none

/-- The permissions within a group that a letter means, given those that there are and whether
`X` means running. -/
def right? (mode : Nat) (runs : Bool) : Char → Option Nat
  | 'r' => some 4
  | 'w' => some 2
  | 'x' => some 1
  | 'X' => some (if runs then 1 else 0)
  | 's' | 't' => some 0
  | 'u' => some (mode / 64 % 8)
  | 'g' => some (mode / 8 % 8)
  | 'o' => some (mode % 8)
  | _ => none

/-- Reads letters as long as they mean something, and joins what they mean. -/
def letters (meaning : Char → Option Nat) : Raw → Nat → Nat × Raw
  | c :: rest, found =>
    match meaning c with
    | some bits => letters meaning rest (found ||| bits)
    | none => (found, c :: rest)
  | [], found => (found, [])

/-- Changes permissions in some groups. -/
def applyChange (change : Change) (groups rights mask mode : Nat) : Nat :=
  let bits := without (groups * rights) mask
  match change with
  | .add => mode ||| bits
  | .drop => without mode bits
  | .assign => without mode (groups * 7) ||| bits

/-- Changes permissions as letters say. Without groups all are meant, less the bits of the mask. -/
def changeFrom (mask : Nat) (runs : Nat → Bool) : Nat → Option (Nat × Nat) → Nat → Raw → Option Nat
  | 0, _, _, _ => none
  | steps + 1, groups, mode, text =>
    let (groups, mask', text) := match groups with
      | some (groups, mask) => (groups, mask, text)
      | none =>
        match letters group? text 0 with
        | (0, rest) => (0o111, mask, rest)
        | (groups, rest) => (groups, 0, rest)
    match text with
    | c :: rest =>
      match change? c with
      | none => none
      | some change =>
        let (rights, rest) := letters (right? mode (runs mode)) rest 0
        let mode := applyChange change groups rights mask' mode
        match rest with
        | [] => some mode
        | ',' :: [] => some mode
        | ',' :: rest => changeFrom mask runs steps none mode rest
        | rest => changeFrom mask runs steps (some (groups, mask')) mode rest
    | [] => none

/-- Permissions changed as letters say, none if they make no sense. -/
def changed? (mask : Nat) (runs : Nat → Bool) (mode : Nat) (text : Raw) : Option Nat :=
  changeFrom mask runs (text.length + 1) none mode text

/-- The letters of the permissions within a group. -/
def lettersOf (rights : Nat) : Raw :=
  (if 4 ≤ rights % 8 then ['r'] else []) ++ (if 2 ≤ rights % 4 then ['w'] else []) ++
    (if rights % 2 = 1 then ['x'] else [])

example : changed? 0 (fun _ => false) 0o750 "u=rw,g+x".toList = some 0o650 := by decide

end Judge.Host.Permission
