import Switchboard.Shell.Syntax
import Switchboard.Text.Basic
import Switchboard.Json.Reader

/-!
# Arithmetic of the shell

Expressions with whole numbers of 64 bits: the usual operators by their ranks, a choice and
assignments. A name stands for the number that the variable holds, an empty one for zero.
-/

namespace Switchboard.Shell.Arithmetic

/-- The variables as far as an expression sees them, and those it has set, the last one first. -/
structure Scope where
  value : String → String
  changes : List (String × String) := []

/-- The text of a variable. -/
def Scope.text (scope : Scope) (name : String) : String :=
  ((scope.changes.find? (·.1 = name)).map (·.2)).getD (scope.value name)

/-- Why an expression has no value. -/
inductive Fault where
  /-- The expression as a whole is at fault. -/
  | expression (reason : String)
  /-- A variable does not hold a number. -/
  | number (text : String)
  deriving DecidableEq, Repr

/-- A number of 64 bits. -/
def wrap (n : Int) : Int := Int.bmod n Word.size64

/-- The value of digits in a base, which end with the text. -/
def digits? (base : Nat) (chars : List Char) : Option Nat :=
  if chars.isEmpty then none
  else chars.foldlM (fun n c => do
    let digit ← Json.hexValue? c
    if digit < base then some (base * n + digit) else none) 0

/-- A number in one of the usual notations, decimal, octal or hexadecimal. -/
def number? (chars : List Char) : Option Int :=
  let top : Int := Word.half64 - 1
  ((match chars with
    | '0' :: 'x' :: rest | '0' :: 'X' :: rest => digits? 16 rest
    | '0' :: d :: rest => digits? 8 (d :: rest)
    | chars => digits? 10 chars).map Int.ofNat).map (min top)

/-- The number that a text holds, blanks around it and a sign apart. -/
def signed? (text : String) : Option Int :=
  match text.toList.dropWhile Text.isBlank with
  | '-' :: rest => (number? rest).map (- ·)
  | '+' :: rest => number? rest
  | [] => some 0
  | chars => number? (Text.trimCharsEnd Text.isBlank chars)

/-- A token of an expression. -/
inductive Token where
  | number (value : Int)
  | name (name : String)
  | sign (text : String)
  deriving DecidableEq, Repr

/-- The signs, the longer ones first. -/
def signs : List String :=
  ["<<=", ">>=", "<<", ">>", "<=", ">=", "==", "!=", "&&", "||", "+=", "-=", "*=", "/=", "%=", "&=",
    "^=", "|=", "<", ">", "=", "!", "~", "*", "/", "%", "+", "-", "&", "^", "|", "?", ":", "(", ")"]

/-- The tokens of an expression; none if it holds anything else. -/
def tokens? : Nat → List Char → Option (List Token)
  | 0, _ => none
  | _ + 1, [] => some []
  | fuel + 1, c :: rest =>
      if c = ' ' || c = '\t' || c = '\n' then tokens? fuel rest
      else if c.isDigit then
        let chars := (c :: rest).takeWhile Char.isAlphanum
        match number? chars with
        | some n => (tokens? fuel ((c :: rest).drop chars.length)).map (.number n :: ·)
        | none =>
            -- A number ends where its digits do.
            let digits := (c :: rest).takeWhile Char.isDigit
            match number? digits with
            | some n => (tokens? fuel ((c :: rest).drop digits.length)).map (.number n :: ·)
            | none => none
      else if isNameChar c then
        let chars := (c :: rest).takeWhile isNameChar
        (tokens? fuel ((c :: rest).drop chars.length)).map (.name (String.ofList chars) :: ·)
      else
        match signs.findSome? fun s => (Text.dropLead? s.toList (c :: rest)).map fun r => (s, r) with
        | some (sign, rest) => (tokens? fuel rest).map (.sign sign :: ·)
        | none => none

/-- The ranks of the operators with two operands; a higher rank binds closer. -/
def rank? : String → Option Nat
  | "||" => some 1
  | "&&" => some 2
  | "|" => some 3
  | "^" => some 4
  | "&" => some 5
  | "==" | "!=" => some 6
  | "<" | "<=" | ">" | ">=" => some 7
  | "<<" | ">>" => some 8
  | "+" | "-" => some 9
  | "*" | "/" | "%" => some 10
  | _ => none

/-- The number of a condition. -/
def ofCondition (b : Bool) : Int := if b then 1 else 0

/-- A bitwise operation on numbers of 64 bits. -/
def bitwise (f : Nat → Nat → Nat) (a b : Int) : Int :=
  wrap (Int.ofNat (f (a % (Word.size64 : Int)).toNat (b % (Word.size64 : Int)).toNat))

/-- The value of an operation; none for a division by zero. -/
def operate? (sign : String) (a b : Int) : Option Int :=
  match sign with
  | "*" => some (wrap (a * b))
  | "/" => if b = 0 then none else some (wrap (Int.tdiv a b))
  | "%" => if b = 0 then none else some (wrap (Int.tmod a b))
  | "+" => some (wrap (a + b))
  | "-" => some (wrap (a - b))
  | "<<" => some (wrap (a * (Nat.pow 2 (b % 64).toNat : Int)))
  | ">>" => some (a / (Nat.pow 2 (b % 64).toNat : Int))
  | "<" => some (ofCondition (a < b))
  | "<=" => some (ofCondition (a ≤ b))
  | ">" => some (ofCondition (a > b))
  | ">=" => some (ofCondition (a ≥ b))
  | "==" => some (ofCondition (a = b))
  | "!=" => some (ofCondition (a ≠ b))
  | "&" => some (bitwise Nat.land a b)
  | "^" => some (bitwise Nat.xor a b)
  | "|" => some (bitwise Nat.lor a b)
  | "&&" => some (ofCondition (a ≠ 0 && b ≠ 0))
  | "||" => some (ofCondition (a ≠ 0 || b ≠ 0))
  | _ => some 0

/-- A step of an evaluation: the value, the tokens left and the variables. -/
abbrev Step := Except Fault (Int × List Token × Scope)

/-- Gives up for a reason that lies in the expression. -/
def give (reason : String) : Step := .error (.expression reason)

/-- The operator of an assignment, without the sign of equality. -/
def assignmentSign? (sign : String) : Option String :=
  match sign with
  | "==" | "!=" | "<=" | ">=" => none
  | sign => if Text.endsWith "=" sign then some (String.ofList sign.toList.dropLast) else none

/-- The number that a variable holds. -/
def numberOf (scope : Scope) (name : String) : Except Fault Int :=
  match signed? (scope.text name) with
  | some value => .ok value
  | none => .error (.number (scope.text name))

mutual

/-- An assignment or a choice. Without `live` nothing is looked up or set, and no division
fails. -/
def assignment : Nat → Bool → List Token → Scope → Step
  | 0, _, _, _ => give "expecting primary"
  | fuel + 1, live, tokens, scope =>
      match tokens with
      | .name name :: .sign sign :: rest =>
          match assignmentSign? sign with
          | none => choice fuel live tokens scope
          | some operator => do
              let (value, rest, scope) ← assignment fuel live rest scope
              if !live then return (value, rest, scope)
              let value ← if operator.isEmpty then pure value else do
                let before ← numberOf scope name
                match operate? operator before value with
                | some value => pure value
                | none => .error (.expression "division by zero")
              return (value, rest, { scope with changes := (name, toString value) :: scope.changes })
      | tokens => choice fuel live tokens scope

/-- A choice between two values, or one value. -/
def choice : Nat → Bool → List Token → Scope → Step
  | 0, _, _, _ => give "expecting primary"
  | fuel + 1, live, tokens, scope => do
      let (value, rest, scope) ← operation fuel live 1 tokens scope
      match rest with
      | .sign "?" :: rest =>
          let (yes, rest, scope) ← assignment fuel (live && value ≠ 0) rest scope
          match rest with
          | .sign ":" :: rest =>
              let (no, rest, scope) ← choice fuel (live && value = 0) rest scope
              return (if value ≠ 0 then yes else no, rest, scope)
          | _ => give "expecting ':'"
      | rest => return (value, rest, scope)

/-- Operations from a rank on. -/
def operation : Nat → Bool → Nat → List Token → Scope → Step
  | 0, _, _, _, _ => give "expecting primary"
  | fuel + 1, live, least, tokens, scope => do
      let (value, rest, scope) ← primary fuel live tokens scope
      continuation fuel live least value rest scope

/-- The operations that follow a value, from a rank on. -/
def continuation : Nat → Bool → Nat → Int → List Token → Scope → Step
  | 0, _, _, _, _, _ => give "expecting primary"
  | fuel + 1, live, least, value, tokens, scope =>
      match tokens with
      | .sign sign :: rest =>
          match rank? sign with
          | some rank =>
              if rank < least then .ok (value, tokens, scope)
              else do
                let needed := match sign with
                  | "&&" => value ≠ 0
                  | "||" => value = 0
                  | _ => true
                let (other, rest, scope) ← operation fuel (live && needed) (rank + 1) rest scope
                match operate? sign value other with
                | some result => continuation fuel live least result rest scope
                | none =>
                    if live then give "division by zero"
                    else continuation fuel live least 0 rest scope
          | none => .ok (value, tokens, scope)
      | tokens => .ok (value, tokens, scope)

/-- A value without operators around it. -/
def primary : Nat → Bool → List Token → Scope → Step
  | 0, _, _, _ => give "expecting primary"
  | fuel + 1, live, tokens, scope =>
      match tokens with
      | .number n :: rest => .ok (n, rest, scope)
      | .name name :: rest =>
          if live then (numberOf scope name).map fun value => (value, rest, scope)
          else .ok (0, rest, scope)
      | .sign "(" :: rest => do
          let (value, rest, scope) ← assignment fuel live rest scope
          match rest with
          | .sign ")" :: rest => return (value, rest, scope)
          | _ => give "expecting ')'"
      | .sign "+" :: rest => primary fuel live rest scope
      | .sign "-" :: rest =>
          (primary fuel live rest scope).map fun (value, more) => (wrap (-value), more)
      | .sign "!" :: rest =>
          (primary fuel live rest scope).map fun (value, more) => (ofCondition (value = 0), more)
      | .sign "~" :: rest =>
          (primary fuel live rest scope).map fun (value, more) => (wrap (-value - 1), more)
      | _ => give "expecting primary"

end

/-- The value of an expression and the variables it set, the first one first. -/
def evaluate (value : String → String) (text : String) :
    Except Fault (Int × List (String × String)) :=
  match tokens? (text.length + 1) text.toList with
  | none => .error (.expression "expecting EOF")
  | some tokens =>
      if tokens.isEmpty then .ok (0, [])
      else do
        let (result, rest, scope) ← assignment (8 * tokens.length + 8) true tokens { value }
        if rest.isEmpty then return (result, scope.changes.reverse)
        else .error (.expression "expecting EOF")

/-- A fault in an expression in words. -/
def Fault.message (text : String) : Fault → String
  | .expression reason => s!"arithmetic expression: {reason}: \"{text}\""
  | .number text => s!"Illegal number: {text}"

end Switchboard.Shell.Arithmetic
