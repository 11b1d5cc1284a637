import LoadScenario.Json.Reader
import LoadScenario.Proofs.TokenReading

/-!
# A written value is read back

The tokens of a value lead the reader from the point where a value must come to the point where that
value has been read, whatever stands on its stack and whatever tokens follow. The induction is on
the value, and its three statements are those of the three functions that write it. Behind the first
item of an array, or of an object, the state of the reader holds what has been read so far, so the
statements about the rest start from there.

With `tokens?_write_append` this says that nothing is lost on the way from a value to its text and
back, however the text is laid out. A string that is no text is no exception, and a number comes
back as it was written.
-/

namespace LoadScenario.Json

theorem head_tokensOf (j : Json) : ∃ t ts, tokensOf j = t :: ts ∧ t ≠ .closeArray := by
  unfold tokensOf
  split <;> exact ⟨_, _, rfl, Token.noConfusion⟩

theorem advance_firstItem {t : Token} (ht : t ≠ .closeArray) (frames : List Frame) :
    advance (.firstItem, frames) t = advance (.value, .items [] :: frames) t := by
  cases t with
  | closeArray => exact absurd rfl ht
  | _ => rfl

/-- An array that has just been opened goes on like one in which a value must come. -/
theorem advanceAll_firstItem (item : Json) (frames : List Frame) (ts : List Token) :
    advanceAll (.firstItem, frames) (tokensOf item ++ ts) =
      advanceAll (.value, .items [] :: frames) (tokensOf item ++ ts) := by
  obtain ⟨t, more, htokens, ht⟩ := head_tokensOf item
  rw [htokens, List.cons_append, advanceAll, advanceAll, advance_firstItem ht]

mutual

theorem advanceAll_tokensOf (j : Json) (frames : List Frame) (ts : List Token) :
    advanceAll (.value, frames) (tokensOf j ++ ts) = advanceAll (.afterValue j, frames) ts := by
  match j with
  | .null | .bool _ | .number _ | .string _ | .array [] | .object [] => rfl
  | .array (item :: rest) =>
      rw [tokensOf, List.cons_append, List.append_assoc, List.append_assoc]
      show advanceAll (.firstItem, frames) _ = _
      rw [advanceAll_firstItem, advanceAll_tokensOf item, List.singleton_append,
        advanceAll_itemTokens rest]
      rfl
  | .object ((key, value) :: rest) =>
      rw [tokensOf, List.cons_append, List.cons_append, List.cons_append, List.append_assoc,
        List.append_assoc]
      show advanceAll (.value, .members [] key :: frames) _ = _
      rw [advanceAll_tokensOf value, List.singleton_append, advanceAll_memberTokens rest]
      rfl

theorem advanceAll_itemTokens (rest : List Json) (v : Json) (before : List Json)
    (frames : List Frame) (ts : List Token) :
    advanceAll (.afterValue v, .items before :: frames) (itemTokens rest ++ .closeArray :: ts) =
      advanceAll (.afterValue (.array (before.reverse ++ v :: rest)), frames) ts := by
  match rest with
  | [] =>
      show advanceAll (.afterValue (.array (v :: before).reverse), frames) ts = _
      rw [List.reverse_cons]
  | item :: rest =>
      rw [itemTokens, List.cons_append, List.append_assoc]
      show advanceAll (.value, .items (v :: before) :: frames) _ = _
      rw [advanceAll_tokensOf item, advanceAll_itemTokens rest, List.reverse_cons,
        List.append_assoc, List.singleton_append]

theorem advanceAll_memberTokens (rest : List (Json.Text × Json)) (key : Json.Text) (v : Json)
    (before : List (Json.Text × Json)) (frames : List Frame) (ts : List Token) :
    advanceAll (.afterValue v, .members before key :: frames)
        (memberTokens rest ++ .closeObject :: ts) =
      advanceAll (.afterValue (.object (before.reverse ++ (key, v) :: rest)), frames) ts := by
  match rest with
  | [] =>
      show advanceAll (.afterValue (.object ((key, v) :: before).reverse), frames) ts = _
      rw [List.reverse_cons]
  | (next, value) :: rest =>
      rw [memberTokens, List.cons_append, List.cons_append, List.cons_append, List.append_assoc]
      show advanceAll (.value, .members ((key, v) :: before) next :: frames) _ = _
      rw [advanceAll_tokensOf value, advanceAll_memberTokens rest, List.reverse_cons,
        List.append_assoc, List.singleton_append]

end

theorem ofTokens?_tokensOf (j : Json) : ofTokens? (tokensOf j) = some j := by
  have h := advanceAll_tokensOf j [] []
  rw [List.append_nil] at h
  rw [ofTokens?, h]
  rfl

/-- A value is read back from its text, whatever white space the text is laid out with and is
followed by. -/
theorem read?_write_append {spacing : Spacing} (hspacing : spacing.Blank) (depth : Nat) {j : Json}
    (hj : j.Numeric) {blank : List Char} (hblank : ∀ c ∈ blank, isSpace c) :
    read? (String.ofList (write spacing depth j ++ blank)) = some j := by
  rw [read?, String.toList_ofList, tokens?_write_append hspacing depth hj hblank]
  exact ofTokens?_tokensOf j

theorem read?_write {spacing : Spacing} (hspacing : spacing.Blank) (depth : Nat) {j : Json}
    (hj : j.Numeric) : read? (String.ofList (write spacing depth j)) = some j := by
  have h := read?_write_append hspacing depth hj (List.forall_mem_nil _)
  rwa [List.append_nil] at h

theorem read?_compact {j : Json} (hj : j.Numeric) : read? j.compact = some j :=
  read?_write compact_blank 0 hj

theorem read?_pretty {j : Json} (hj : j.Numeric) : read? j.pretty = some j :=
  read?_write indented_blank 0 hj

end LoadScenario.Json
