import Newsdesk.Proofs.Json.Fields
import Newsdesk.Json.Patch

/-!
# Written patches

A written patch names its places by pointers: tokens behind slashes, in which `~0` stands for a
tilde and `~1` for a slash. Whether a token is the name of a field or the position of an item is
told by the value that it is applied to (`resolve`). What is written for a patch does the same as
the patch (`applyWritten_toJson`).
-/

namespace Newsdesk.Patch

open Json

/-! ## Reading -/

/-- Splits a pointer: the text before the first slash, and the tokens behind the slashes. -/
def splitPointer : List Char → Option (List Char × List (List Char))
  | [] => some ([], [])
  | '/' :: rest => (splitPointer rest).map fun (first, tokens) => ([], first :: tokens)
  | '~' :: '0' :: rest => (splitPointer rest).map fun (first, tokens) => ('~' :: first, tokens)
  | '~' :: '1' :: rest => (splitPointer rest).map fun (first, tokens) => ('/' :: first, tokens)
  | c :: rest =>
    if c = '~' then none
    else (splitPointer rest).map fun (first, tokens) => (c :: first, tokens)

/-- The tokens of a pointer, which is empty or starts with a slash. -/
def readPointer (text : String) : Option (List String) :=
  match splitPointer text.toList with
  | some ([], tokens) => some (tokens.map String.ofList)
  | _ => none

/-- The position that a token stands for in an array: a number without leading zeros, or a dash for
the end. -/
def readPosition (items : List Json) (token : String) : Option Nat :=
  let position := Nat.ofDigitChars 10 token.toList 0
  if token = "-" then some items.length
  else if Nat.toDigits 10 position = token.toList then some position
  else none

/-- The steps that tokens stand for in a value. -/
def resolve : List String → Json → Option (List PathStep)
  | [], _ => some []
  | token :: rest, .obj fields =>
    (resolve rest ((fields.lookup token).getD .null)).map (.key token :: ·)
  | token :: rest, .arr items => do
    let position ← readPosition items token
    (resolve rest (items[position]?.getD .null)).map (.index position :: ·)
  | _ :: _, _ => none

/-- Reads an operation: its pointer, and what happens there. -/
def readOp (op : Json) : Option (String × PatchAction) := do
  let pointer ← (op.field "path").text?
  let name ← (op.field "op").text?
  if name = "add" then return (pointer, .add (← op.field? "value"))
  else if name = "replace" then return (pointer, .replace (← op.field? "value"))
  else if name = "remove" then return (pointer, .remove)
  else none

/-- Applies a written operation. -/
def applyOp (value op : Json) : Option Json := do
  let (pointer, action) ← readOp op
  let tokens ← readPointer pointer
  edit action (← resolve tokens value) value

/-- Applies the operations of a written patch in order. -/
def applyWritten : Json → Json → Option Json
  | .arr ops, value => ops.foldlM applyOp value
  | _, _ => none

/-! ## Pointers -/

/-- The token of a step. -/
def token : PathStep → List Char
  | .key name => name.toList
  | .index position => Nat.toDigits 10 position

/-- A token with its escapes. -/
def escaped (cs : List Char) : List Char :=
  cs.flatMap fun c => if c = '~' then ['~', '0'] else if c = '/' then ['~', '1'] else [c]

theorem splitPointer_cons {c : Char} (h : c ≠ '/') (h' : c ≠ '~') (rest : List Char) :
    splitPointer (c :: rest) =
      (splitPointer rest).map fun (first, tokens) => (c :: first, tokens) := by
  rw [splitPointer, if_neg h']
  all_goals simp [h, h']

/-- Escapes are taken back exactly. -/
theorem splitPointer_escaped (cs rest : List Char) :
    splitPointer (escaped cs ++ rest) =
      (splitPointer rest).map fun (first, tokens) => (cs ++ first, tokens) := by
  induction cs with
  | nil => simp [escaped]
  | cons c cs ih =>
    unfold escaped at ih ⊢
    rw [List.flatMap_cons, List.append_assoc]
    by_cases h : c = '~'
    · subst h
      simp only [if_true, List.cons_append, List.nil_append, splitPointer, ih, Option.map_map]
      rfl
    · by_cases h' : c = '/'
      · subst h'
        simp only [if_true, if_neg h, List.cons_append, List.nil_append, splitPointer, ih,
          Option.map_map]
        rfl
      · rw [if_neg h, if_neg h', List.singleton_append, splitPointer_cons h' h, ih, Option.map_map]
        rfl

theorem escaped_eq_self {cs : List Char} (h : ∀ c ∈ cs, c.isDigit) : escaped cs = cs := by
  unfold escaped
  induction cs with
  | nil => rfl
  | cons c cs ih =>
    have hc : c.isDigit := h c List.mem_cons_self
    have htilde : c ≠ '~' := fun e => by rw [e] at hc; cases hc
    have hslash : c ≠ '/' := fun e => by rw [e] at hc; cases hc
    rw [List.flatMap_cons, if_neg htilde, if_neg hslash,
      ih fun d hd => h d (List.mem_cons_of_mem _ hd), List.singleton_append]

/-- The text of a step is its token behind a slash. -/
theorem stepText_eq (step : PathStep) : stepText step = '/' :: escaped (token step) := by
  cases step with
  | key name => rfl
  | index position =>
    have hdigits : ∀ c ∈ Nat.toDigits 10 position, c.isDigit := fun c hc =>
      Nat.isDigit_of_mem_toDigits (by decide) (by decide) hc
    rw [token, escaped_eq_self hdigits]
    rfl

theorem splitPointer_flatMap_stepText (path : List PathStep) :
    splitPointer (path.flatMap stepText) = some ([], path.map token) := by
  induction path with
  | nil => rfl
  | cons step rest ih =>
    rw [List.flatMap_cons, stepText_eq, List.cons_append, splitPointer, splitPointer_escaped, ih]
    simp

/-- A pointer that is written for a path reads as its tokens. -/
theorem readPointer_pathText (path : List PathStep) :
    readPointer (pathText path) = some (path.map fun step => String.ofList (token step)) := by
  simp [readPointer, pathText, splitPointer_flatMap_stepText, Function.comp_def]

/-! ## Places -/

theorem readPosition_token (items : List Json) (position : Nat) :
    readPosition items (String.ofList (token (.index position))) = some position := by
  have hdash : String.ofList (token (.index position)) ≠ "-" := by
    intro h
    have hmem : '-' ∈ Nat.toDigits 10 position := by
      have := congrArg String.toList h
      rw [String.toList_ofList] at this
      change Nat.toDigits 10 position = _ at this
      rw [this]
      decide
    cases Nat.isDigit_of_mem_toDigits (by decide) (by decide) hmem
  unfold readPosition
  rw [if_neg hdash]
  simp [token, Nat.ofDigitChars_ten_toDigits]

/-- Where a path leads to something that can be done, its tokens stand for its steps. -/
theorem resolve_tokens {action : PatchAction} {path : List PathStep} {value after : Json}
    (h : edit action path value = some after) :
    resolve (path.map fun step => String.ofList (token step)) value = some path := by
  induction path generalizing value after with
  | nil => rfl
  | cons step rest ih =>
    cases step with
    | key name =>
      cases value with
      | obj fields =>
        have htoken : String.ofList (token (.key name)) = name := String.ofList_toList
        rw [List.map_cons, htoken, resolve]
        cases rest with
        | nil => rfl
        | cons next rest =>
          simp only [edit, Option.bind_eq_bind, Option.bind_eq_some_iff] at h
          obtain ⟨before, hl, child, hchild, -⟩ := h
          rw [hl, Option.getD_some, ih hchild]
          rfl
      | _ => cases rest <;> cases h
    | index position =>
      cases value with
      | arr items =>
        simp only [List.map_cons, resolve, readPosition_token]
        cases rest with
        | nil => rfl
        | cons next rest =>
          simp only [edit, Option.bind_eq_bind, Option.bind_eq_some_iff] at h
          obtain ⟨before, hl, child, hchild, -⟩ := h
          rw [Option.bind_eq_bind, Option.bind_some, hl, Option.getD_some, ih hchild]
          rfl
      | _ => cases rest <;> cases h

/-! ## Patches -/

theorem readOp_opToJson (op : PatchOp) :
    readOp (opToJson op) = some (pathText op.path, op.action) := by
  obtain ⟨path, action⟩ := op
  cases action <;>
    simp [readOp, opToJson, ofFields, field, field?, lookup_sortFields, List.lookup_cons, text?]

theorem applyOp_opToJson {op : PatchOp} {value after : Json}
    (h : edit op.action op.path value = some after) : applyOp value (opToJson op) = some after := by
  simp [applyOp, readOp_opToJson, readPointer_pathText, resolve_tokens h, h]

/-- What is written for a patch does what the patch does. -/
theorem applyWritten_toJson {patch : Patch} {value after : Json}
    (h : apply patch value = some after) : applyWritten patch.toJson value = some after := by
  change (patch.map opToJson).foldlM applyOp value = some after
  induction patch generalizing value with
  | nil => exact h
  | cons op rest ih =>
    obtain ⟨between, hop, h⟩ := Option.bind_eq_some_iff.1 h
    rw [List.map_cons, List.foldlM_cons, applyOp_opToJson hop]
    exact ih h

end Newsdesk.Patch
