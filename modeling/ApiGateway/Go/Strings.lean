import Mathlib.Data.List.Basic

/-!
The pieces of Go's `strings` and `encoding/json` packages the gateway calls.

Go strings are modelled as Lean `String`s, and byte slices (request and
response bodies) as `Bytes`. `splitN` is `strings.SplitN` for the one-character
separator the handler splits paths with; `splitN_of_sep` and
`splitN_of_not_mem` are the two facts about it the handler's proofs use.
`marshalJSONError` is `json.Marshal` of the `{"error_msg": ...}` envelope both
the processor and the handler write.
-/

namespace ApiGateway

/-- A Go `[]byte`. -/
abbrev Bytes := List UInt8

/-- `[]byte(s)`: the UTF-8 encoding of `s`. -/
def bytesOf (s : String) : Bytes := s.toUTF8.data.toList

/-- `strings.TrimPrefix(s, prefix)`. -/
def trimPrefix (s pre : String) : String :=
  if pre.data.isPrefixOf s.data then ⟨s.data.drop pre.data.length⟩ else s

@[simp] theorem trimPrefix_append (pre s : String) : trimPrefix (pre ++ s) pre = s := by
  simp [trimPrefix, List.isPrefixOf_iff_prefix]

theorem trimPrefix_of_ne_append {s pre : String} (h : ∀ t, s ≠ pre ++ t) : trimPrefix s pre = s := by
  unfold trimPrefix
  rw [if_neg]
  intro hp
  obtain ⟨t, ht⟩ := List.isPrefixOf_iff_prefix.mp hp
  exact h ⟨t⟩ (String.ext (by simpa using ht.symm))

/-- `strings.SplitN(s, sep, n)` for a one-character `sep`: at most `n` pieces,
the last holding the rest of `s` unsplit. -/
def splitN (s : String) (sep : Char) (n : Nat) : List String :=
  (go s.data n).map String.mk
where
  /-- The loop of `genSplit`: cut at the first `sep` while pieces remain. -/
  go (cs : List Char) : Nat → List (List Char)
    | 0 => []
    | 1 => [cs]
    | n + 2 =>
      match cs.span (· != sep) with
      | (piece, []) => [piece]
      | (piece, _ :: rest) => piece :: go rest (n + 1)

section SplitN

variable {sep : Char}

theorem span_of_not_mem {a : List Char} (ha : sep ∉ a) (rest : List Char) :
    (a ++ sep :: rest).span (· != sep) = (a, sep :: rest) := by
  rw [List.span_eq_take_drop]
  induction a with
  | nil => simp
  | cons c a ih =>
    have hc : (c != sep) = true := bne_iff_ne.mpr fun h => ha (h ▸ List.mem_cons_self c a)
    obtain ⟨h1, h2⟩ := Prod.mk.inj (ih fun h => ha (List.mem_cons_of_mem c h))
    simp [List.takeWhile_cons, List.dropWhile_cons, hc, h1, h2]

/-- A piece without the separator, then the separator: the first cut. -/
theorem splitN_of_sep {a : List Char} (ha : sep ∉ a) (rest : List Char) (n : Nat) :
    splitN.go sep (a ++ sep :: rest) (n + 2) = a :: splitN.go sep rest (n + 1) := by
  simp only [splitN.go, span_of_not_mem ha]

/-- A piece without the separator is the last piece. -/
theorem splitN_of_not_mem {a : List Char} (ha : sep ∉ a) (n : Nat) :
    splitN.go sep a (n + 1) = [a] := by
  cases n with
  | zero => rfl
  | succ n =>
    have hall : ∀ c ∈ a, (c != sep) = true := fun c hc => bne_iff_ne.mpr fun h => ha (h ▸ hc)
    have : a.span (· != sep) = (a, []) := by
      rw [List.span_eq_take_drop, List.takeWhile_eq_self_iff.mpr hall,
        List.dropWhile_eq_nil_iff.mpr hall]
    simp only [splitN.go, this]

theorem splitN_go_length_le : ∀ (cs : List Char) (n : Nat), (splitN.go sep cs n).length ≤ n
  | _, 0 => by simp [splitN.go]
  | _, 1 => by simp [splitN.go]
  | cs, n + 2 => by
    unfold splitN.go
    split
    · simp
    · simp only [List.length_cons, Nat.add_le_add_iff_right]; exact splitN_go_length_le _ (n + 1)

/-- A piece followed by more pieces was cut at the first separator. -/
theorem splitN_go_cons {cs a : List Char} {n : Nat} {l : List (List Char)}
    (h : splitN.go sep cs (n + 2) = a :: l) (hl : l ≠ []) :
    sep ∉ a ∧ ∃ rest, cs = a ++ sep :: rest ∧ l = splitN.go sep rest (n + 1) := by
  unfold splitN.go at h
  split at h
  next => cases h; exact absurd rfl hl
  next piece c rest hspan =>
    obtain ⟨rfl, rfl⟩ := List.cons.inj h
    rw [List.span_eq_take_drop, Prod.mk.injEq] at hspan
    obtain ⟨htake, hdrop⟩ := hspan
    have hc : c = sep := by
      simpa [hdrop] using List.head_dropWhile_not (· != sep) cs (by simp [hdrop])
    refine ⟨fun hmem => ?_, rest, ?_, rfl⟩
    · exact absurd (List.mem_takeWhile_imp (htake ▸ hmem)) (by simp)
    · rw [← List.takeWhile_append_dropWhile (· != sep) cs, htake, hdrop, hc]

/-- Three pieces: two separator-free ones, each followed by a separator, and
the rest. -/
theorem splitN_go_three {cs a b c : List Char} (h : splitN.go sep cs 3 = [a, b, c]) :
    sep ∉ a ∧ sep ∉ b ∧ cs = a ++ sep :: (b ++ sep :: c) := by
  obtain ⟨ha, rest, rfl, hrest⟩ := splitN_go_cons h (List.cons_ne_nil _ _)
  obtain ⟨hb, rest', rfl, hrest'⟩ := splitN_go_cons hrest.symm (List.cons_ne_nil _ _)
  cases hrest'
  exact ⟨ha, hb, rfl⟩

end SplitN

/-- How `encoding/json` writes one character of a string, with the HTML
escaping `json.Marshal` applies. -/
def jsonEscape (c : Char) : String :=
  if c = '"' ∨ c = '\\' then "\\" ++ c.toString
  else if c = '\x08' then "\\b"
  else if c = '\x0c' then "\\f"
  else if c = '\n' then "\\n"
  else if c = '\r' then "\\r"
  else if c = '\t' then "\\t"
  else if c.toNat < 0x20 ∨ c = '<' ∨ c = '>' ∨ c = '&' then
    "\\u00" ++ (Nat.digitChar (c.toNat / 16)).toString ++ (Nat.digitChar (c.toNat % 16)).toString
  else if c = '\u2028' ∨ c = '\u2029' then "\\u202" ++ (Nat.digitChar (c.toNat % 16)).toString
  else c.toString

/-- A JSON string literal for `s`. -/
def jsonString (s : String) : String :=
  "\"" ++ String.join (s.data.map jsonEscape) ++ "\""

/-- `json.Marshal(jsonError{ErrorMsg: msg})`: the field is `omitempty`, so an
empty message marshals to an empty object. -/
def marshalJSONError (msg : String) : Bytes :=
  bytesOf (if msg = "" then "\x7b\x7d" else "\x7b\"error_msg\":" ++ jsonString msg ++ "\x7d")

theorem marshalJSONError_of_ne_empty {msg : String} (h : msg ≠ "") :
    marshalJSONError msg = bytesOf ("\x7b\"error_msg\":" ++ jsonString msg ++ "\x7d") := by
  simp [marshalJSONError, h]

end ApiGateway
