/-
GuardCost/Machine/Rights.lean

Rights as text.  Rights are written as an octal number, or as clauses that say
whose rights are added, taken away or set.  A clause that does not say whose
leaves alone what a mask keeps from new files.
-/
import GuardCost.Machine.FileSystem

namespace GuardCost.Rights

/-! ### Bits -/

/-- The bits that two rights share. -/
def both (a b : Rights) : Rights := a &&& b

/-- The bits of a that b does not have. -/
def without (a b : Rights) : Rights := a - (a &&& b)

/-- The rights of a class of people. -/
def ofClass? (c : Char) : Option Rights :=
  match c with
  | 'u' => some 0o4700
  | 'g' => some 0o2070
  | 'o' => some 0o1007
  | 'a' => some 0o7777
  | _ => none

/-- The bits of a letter, for everybody. -/
def ofLetter? (isDirectory : Bool) (old : Rights) (c : Char) : Option Rights :=
  match c with
  | 'r' => some 0o444
  | 'w' => some 0o222
  | 'x' => some 0o111
  | 'X' => some (if isDirectory || isRunnable old then 0o111 else 0)
  | 's' => some 0o6000
  | 't' => some 0o1000
  | _ => none

/-- The rights that one class has, given to everybody. -/
def spread (old : Rights) (c : Char) : Option Rights :=
  let three := fun k : Nat => old / k % 8
  match c with
  | 'u' => some (three 64 * 0o111)
  | 'g' => some (three 8 * 0o111)
  | 'o' => some (three 1 * 0o111)
  | _ => none

/-! ### Reading -/

/-- The number that octal digits stand for, if it is not too large. -/
def ofOctal? (cs : List Char) : Option Rights :=
  if !cs.isEmpty && cs.all fun c => '0' ≤ c && c ≤ '7' then
    let n := cs.foldl (fun n c => n * 8 + (c.toNat - '0'.toNat)) 0
    if n ≤ 0o7777 then some n else none
  else none

/-- Carry out the signs of a clause with their letters. -/
def changeBy (allowance : Nat) (isDirectory : Bool) (mask : Rights) (who? : Option Rights)
    (old : Rights) (cs : List Char) : Option Rights :=
  match allowance, cs with
  | _, [] => some old
  | 0, _ => none
  | n + 1, sign :: rest =>
    let letters := rest.takeWhile fun c => !(['+', '-', '='].contains c)
    let after := rest.drop letters.length
    let bits? : Option Rights :=
      match letters with
      | [c] =>
        match spread old c with
        | some bits => some bits
        | none => ofLetter? isDirectory old c
      | _ => (letters.mapM (ofLetter? isDirectory old)).map fun bits => bits.foldl (· ||| ·) 0
    match bits? with
    | none => none
    | some bits =>
      let affected := who?.getD (without 0o7777 mask)
      let bits := both bits affected
      let new? := match sign with
        | '+' => some (old ||| bits)
        | '-' => some (without old bits)
        | '=' => some (without old (who?.getD 0o777) ||| bits)
        | _ => none
      match new? with
      | some new => changeBy n isDirectory mask who? new after
      | none => none

/-- Carry out one clause. -/
def changeByClause (isDirectory : Bool) (mask old : Rights) (cs : List Char) : Option Rights :=
  let who := cs.takeWhile fun c => (ofClass? c).isSome
  let rest := cs.drop who.length
  let who? := if who.isEmpty then none
    else some ((who.filterMap ofClass?).foldl (· ||| ·) 0)
  if rest.isEmpty then none else changeBy rest.length isDirectory mask who? old rest

/-- The rights that a text makes of others, if it can be read. -/
def change? (isDirectory : Bool) (mask old : Rights) (s : String) : Option Rights :=
  match ofOctal? s.toList with
  | some n => some n
  | none =>
    (partsAt ',' s.toList).foldlM (changeByClause isDirectory mask) old

/-! ### Writing -/

/-- The three letters of a class. -/
def threeText (n : Nat) : String :=
  (if n / 4 % 2 = 1 then "r" else "-") ++ (if n / 2 % 2 = 1 then "w" else "-")
    ++ (if n % 2 = 1 then "x" else "-")

/-- Rights as nine letters. -/
def letters (r : Rights) : String :=
  threeText (r / 64) ++ threeText (r / 8) ++ threeText r

/-- Rights as octal digits. -/
def octal (r : Rights) (digits : Nat) : String :=
  let ds := Nat.toDigits 8 r
  String.ofList (List.replicate (digits - ds.length) '0' ++ ds)

end GuardCost.Rights
