import HttpAudit.Pattern.Template

/-!
# Replacements in rules

A replacement in a rule refers to the groups of its pattern by `$1` to `$99`, and to the whole
match by `$&`. Two dollar signs stand for one; any other dollar sign stands for itself.

## Main definitions

* `HttpAudit.Replacement.toTemplate` — a replacement as the text of a template.
-/

namespace HttpAudit.Replacement

/-- The value of a decimal digit. -/
def digit? (c : Char) : Option Nat :=
  if c.isDigit then some (c.toNat - '0'.toNat) else none

/-- The reference to the group with index `n`, as it is written in a template. -/
def reference (n : Nat) : List Char :=
  ['$', '{'] ++ (toString n).toList ++ ['}']

/-- The index of a group that one or two digits name, if there are so many groups, and the text
after these digits. Two digits are preferred. -/
def group? (groups : Nat) (s : List Char) : Option (Nat × List Char) :=
  match s with
  | [] => none
  | c :: rest =>
    match digit? c with
    | none => none
    | some first =>
      let one := if 1 ≤ first && first ≤ groups then some (first, rest) else none
      match rest with
      | [] => one
      | d :: more =>
        match digit? d with
        | none => one
        | some second =>
          let n := 10 * first + second
          if 1 ≤ n && n ≤ groups then some (n, more) else one

/-- The replacement of a pattern with the given number of groups as the text of a template;
`fuel` is at least the length of the replacement. -/
def templateWith (groups : Nat) : (fuel : Nat) → List Char → List Char
  | 0, _ => []
  | _, [] => []
  | fuel + 1, '$' :: '$' :: rest => '$' :: '$' :: templateWith groups fuel rest
  | fuel + 1, '$' :: '&' :: rest => reference 0 ++ templateWith groups fuel rest
  | fuel + 1, '$' :: rest =>
    match group? groups rest with
    | some (n, after) => reference n ++ templateWith groups fuel after
    | none => '$' :: '$' :: templateWith groups fuel rest
  | fuel + 1, c :: rest => c :: templateWith groups fuel rest

/-- The replacement of a pattern with the given number of groups as the text of a template. -/
def toTemplate (groups : Nat) (s : List Char) : List Char :=
  templateWith groups s.length s

end HttpAudit.Replacement
