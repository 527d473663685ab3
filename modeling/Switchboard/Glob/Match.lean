import Switchboard.Glob.Pattern

/-!
# Matching globs

Matching runs over the tokens of a pattern and carries the set of places a match may have reached,
each as the bytes still unread. A path matches when one of the places after the last token is the
end of the path.

Two rules go beyond the tokens. A pattern that is only a leading `**` matches everything. A
pattern decided by the file name or its extension never matches a path that has no file name,
which is an empty path or one that ends in the step to a parent directory.
-/

namespace Switchboard.Glob

open Switchboard.Text.Utf8 (Bytes)

/-- Joins two sets of places; a place is known by the number of bytes left. -/
def joinPlaces (a b : List Bytes) : List Bytes :=
  a ++ b.filter fun place => !a.any (·.length == place.length)

/-- Every place from the earliest of the given ones to the end. -/
def onward (places : List Bytes) : List Bytes :=
  match places with
  | [] => []
  | place :: rest => tails (rest.foldl (fun a b => if a.length < b.length then b else a) place)
where
  /-- A byte string and all its tails. -/
  tails : Bytes → List Bytes
    | [] => [[]]
    | b :: rest => (b :: rest) :: tails rest

/-- The places after one byte that satisfies `p`. -/
def afterByte (p : UInt8 → Bool) (places : List Bytes) : List Bytes :=
  places.filterMap fun place =>
    match place with
    | b :: rest => if p b then some rest else none
    | [] => none

/-- The byte of a slash. -/
def slash : UInt8 := 47

mutual

/-- Whether a token stands for nothing at all: a group with only void branches. -/
def isVoid : Token → Bool
  | .choice branches => allBranchesVoid branches
  | _ => false

/-- Whether a branch stands for nothing at all. -/
def allVoid : List Token → Bool
  | [] => true
  | token :: tokens => isVoid token && allVoid tokens

/-- Whether every branch stands for nothing at all. -/
def allBranchesVoid : List (List Token) → Bool
  | [] => true
  | branch :: branches => allVoid branch && allBranchesVoid branches

end

mutual

/-- The places reached after one token. -/
def afterToken (places : List Bytes) : Token → List Bytes
  | .byte b => afterByte (· == b) places
  | .any => afterByte (fun _ => true) places
  | .star => onward places
  | .set negated ranges =>
      afterByte (fun b => (ranges.any fun (lo, hi) => lo ≤ b && b ≤ hi) != negated) places
  | .leadingDirs => joinPlaces places (afterByte (· == slash) (onward places))
  | .trailingPath => onward (afterByte (· == slash) places)
  | .middleDirs =>
      let below := afterByte (· == slash) places
      joinPlaces below (afterByte (· == slash) (onward below))
  | .choice branches =>
      if allBranchesVoid branches then places else afterBranches places branches

/-- The places reached after a list of tokens. -/
def afterTokens (places : List Bytes) : List Token → List Bytes
  | [] => places
  | token :: tokens => afterTokens (afterToken places token) tokens

/-- The places reached after one of the branches; void branches are dropped. -/
def afterBranches (places : List Bytes) : List (List Token) → List Bytes
  | [] => []
  | branch :: branches =>
      let rest := afterBranches places branches
      if allVoid branch then rest else joinPlaces (afterTokens places branch) rest

end

/-- The literal bytes of a list of tokens, if it has no other tokens. -/
def literalBytes? : List Token → Option Bytes
  | [] => some []
  | .byte b :: tokens => (literalBytes? tokens).map (b :: ·)
  | _ :: _ => none

/-- Whether the literal end of the tokens holds a dot after its last slash. -/
def endsInExtension (tokens : List Token) : Bool :=
  go tokens.reverse
where
  /-- Looks for the dot from the end. -/
  go : List Token → Bool
    | .byte b :: rest => if b == 47 then false else b == 46 || go rest
    | _ => false

/-- Whether a pattern is decided by the file name or its extension. -/
def Pattern.byName (p : Pattern) : Bool :=
  match p.tokens with
  | .leadingDirs :: rest =>
      match literalBytes? rest with
      | some bytes => !bytes.isEmpty && !bytes.contains slash
      | none =>
          match rest with
          | .star :: rest =>
              match literalBytes? rest with
              | some (46 :: bytes) => !bytes.contains 46 && !bytes.contains slash
              | some _ => false
              | none => endsInExtension p.tokens
          | _ => endsInExtension p.tokens
  | .star :: rest =>
      match literalBytes? rest with
      | some (46 :: bytes) => !bytes.contains 46 && !bytes.contains slash
      | some _ => false
      | none => endsInExtension p.tokens
  | tokens => (literalBytes? tokens).isNone && endsInExtension tokens

/-- Whether a path has a file name: what follows its last slash is not the step to a parent. -/
def hasName (path : Bytes) : Bool :=
  !path.isEmpty && path.reverse.takeWhile (· != slash) != [46, 46]

/-- Whether a pattern matches the bytes of a path. -/
def Pattern.matchesBytes (p : Pattern) (path : Bytes) : Bool :=
  match p.tokens with
  | [.leadingDirs] => true
  | tokens =>
      (afterTokens [path] tokens).any (·.isEmpty) && (!p.byName || hasName path)

/-- Whether a pattern matches a path. -/
def Pattern.matchesPath (p : Pattern) (path : String) : Bool :=
  p.matchesBytes (Text.Utf8.encode path)

/-- A set of patterns, which matches what one of them matches. -/
abbrev PatternSet := List Pattern

/-- Whether a pattern of the set matches. -/
def PatternSet.matchesPath (set : PatternSet) (path : String) : Bool :=
  let bytes := Text.Utf8.encode path
  set.any (·.matchesBytes bytes)

/-- Parses patterns up to the first refused one, which is named with the reason. -/
def parseAll : List String → Except (String × Refusal) PatternSet
  | [] => .ok []
  | pattern :: patterns =>
      match parse pattern with
      | .error refusal => .error (pattern, refusal)
      | .ok p => (parseAll patterns).map (p :: ·)

end Switchboard.Glob
