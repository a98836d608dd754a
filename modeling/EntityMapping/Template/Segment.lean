/-! Templates as segments: text that is copied, and expressions between braces. Braces nest inside an expression, and a brace
inside a quoted string counts as text. -/

namespace EntityMapping.Template

inductive Segment where
  | text (cs : List Char)
  | expression (cs : List Char)
deriving DecidableEq, Repr

namespace Segment

/-- What an expression holds and what follows its closing brace. `depth` counts the braces open inside the expression,
`quote` is the quote of the string that is open. -/
def closing? (depth : Nat) (quote : Option Char) : List Char → Option (List Char × List Char)
  | [] => none
  | c :: cs =>
    let inside (depth : Nat) (quote : Option Char) := (closing? depth quote cs).map fun (body, rest) => (c :: body, rest)
    match quote with
    | some q => inside depth (if c == q then none else some q)
    | none =>
      if c == '\'' || c == '"' then inside depth (some c)
      else if c == '{' then inside (depth + 1) none
      else if c == '}' then match depth with
        | 0 => some ([], cs)
        | depth + 1 => inside depth none
      else inside depth none

theorem closing?_length {depth : Nat} {quote : Option Char} {cs body rest : List Char} :
    closing? depth quote cs = some (body, rest) → rest.length < cs.length := by
  induction cs generalizing depth quote body with
  | nil => simp [closing?]
  | cons c cs ih =>
    have step : ∀ {d q}, (closing? d q cs).map (fun (body, rest) => (c :: body, rest)) = some (body, rest) →
        rest.length < (c :: cs).length := by
      intro d q found
      simp only [Option.map_eq_some_iff, Prod.exists, Prod.mk.injEq] at found
      obtain ⟨inner, after, h, -, rfl⟩ := found
      have := ih h
      simp only [List.length_cons]
      omega
    unfold closing?
    dsimp only
    split
    · exact step
    · split
      · exact step
      · split
        · exact step
        · split
          · split
            · intro found
              obtain ⟨-, rfl⟩ : [] = body ∧ cs = rest := by simpa using found
              simp
            · exact step
          · exact step

private theorem afterSpan_length {cs rest body after : List Char} {c : Char} (opened : cs.dropWhile (· != '{') = c :: rest)
    (closed : closing? 0 none rest = some (body, after)) : after.length < cs.length := by
  have inner := closing?_length closed
  have outer := (List.dropWhile_sublist (p := (· != '{')) (l := cs)).length_le
  rw [opened] at outer
  simp only [List.length_cons] at outer
  omega

/-- The segments of a text, or `none` when a brace stays open. A closing brace outside of any expression is text. -/
def split? (cs : List Char) : Option (List Segment) :=
  let before := cs.takeWhile (· != '{')
  let withText (segments : List Segment) := if before.isEmpty then segments else text before :: segments
  match opened : cs.dropWhile (· != '{') with
  | [] => some (withText [])
  | _ :: rest => match closed : closing? 0 none rest with
    | none => none
    | some (body, after) =>
      have := afterSpan_length opened closed
      (split? after).map fun segments => withText (expression body :: segments)
termination_by cs.length

/-- A segment as it stands in a template. -/
def source : Segment → List Char
  | text cs => cs
  | expression cs => '{' :: cs ++ ['}']

end Segment

end EntityMapping.Template
