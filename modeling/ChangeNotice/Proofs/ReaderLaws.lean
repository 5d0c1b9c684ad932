import Mathlib.Data.List.TakeWhile
import Mathlib.Order.Nat
import ChangeNotice.Json.Reader

/-! # Readers use up the text

No reader leaves more text than it finds, and whoever reads a value leaves less. So
the loops over elements and members, which take a bound on their rounds, never come
to the end of it: every round after the first takes a comma.
-/

namespace ChangeNotice.Json

variable {α β : Type} {k : Nat} {cs : List Char}

/-- If something is read, it and what is left are such. -/
def Yields (P : α → List Char → Prop) (x : Except ReadError (α × List Char)) : Prop :=
  ∀ v rest, x = .ok (v, rest) → P v rest

/-- If something is read, fewer than `k` characters are left. -/
abbrev Leaves (k : Nat) (x : Except ReadError (α × List Char)) : Prop :=
  Yields (fun _ rest => rest.length < k) x

namespace Yields

variable {P : α → List Char → Prop} {Q : β → List Char → Prop}

theorem ok {v : α} (h : P v cs) : Yields P (.ok (v, cs)) := by
  intro v' rest heq
  cases heq
  exact h

theorem error (e : ReadError) : Yields P (.error e) := by
  intro v rest heq
  cases heq

theorem bind {x : Except ReadError (α × List Char)}
    {f : α × List Char → Except ReadError (β × List Char)} (hx : Yields P x)
    (hf : ∀ v rest, P v rest → Yields Q (f (v, rest))) : Yields Q (x >>= f) := by
  cases x with
  | error e => exact error e
  | ok read => exact hf read.1 read.2 (hx read.1 read.2 rfl)

theorem ite {p : Prop} [Decidable p] {x y : Except ReadError (α × List Char)} (hx : Yields P x)
    (hy : Yields P y) : Yields P (if p then x else y) := by
  split
  · exact hx
  · exact hy

/-- Whatever has been read before does not matter. -/
theorem after {x : Except ReadError (α × List Char)}
    {f : α × List Char → Except ReadError (β × List Char)}
    (hf : ∀ v rest, Yields Q (f (v, rest))) : Yields Q (x >>= f) :=
  bind (P := fun _ _ => True) (fun _ _ _ => trivial) fun v rest _ => hf v rest

end Yields

theorem Leaves.mono {n : Nat} {x : Except ReadError (α × List Char)} (hx : Leaves n x)
    (h : n ≤ k) : Leaves k x := fun v rest heq => Nat.lt_of_lt_of_le (hx v rest heq) h

theorem length_skipBlanks_le (cs : List Char) : (skipBlanks cs).length ≤ cs.length :=
  List.length_dropWhile_le isBlank cs

/-- The text that is left once blanks have been skipped and one more character has been taken. -/
theorem length_lt_of_skipBlanks {c : Char} {rest : List Char} (h : skipBlanks cs = c :: rest) :
    rest.length < cs.length := by
  have hle := length_skipBlanks_le cs
  rw [h, List.length_cons] at hle
  exact hle

/-! ## Numbers and strings -/

theorem readDigits_leaves (cut : ReadError) (cs : List Char) :
    Leaves cs.length (readDigits cut cs) := by
  unfold readDigits
  split
  · exact .error _
  next c rest =>
    split
    next hdigit =>
      refine .ok ?_
      have hle := List.length_dropWhile_le Char.isDigit rest
      simp only [List.dropWhile_cons, hdigit, if_true, List.length_cons]
      omega
    next => exact .error _

theorem readFraction_leaves (cut : ReadError) (cs : List Char) :
    Leaves (cs.length + 1) (readFraction cut cs) := by
  unfold readFraction
  split
  next rest =>
    refine (readDigits_leaves cut rest).bind fun ds rest' hrest => .ok ?_
    simp only [List.length_cons]
    omega
  next => exact .ok (Nat.lt_succ_self _)

theorem readExponentDigits_leaves (cut : ReadError) (negative : Bool) (cs : List Char) :
    Leaves cs.length (readExponentDigits cut negative cs) :=
  (readDigits_leaves cut cs).bind fun _ _ hrest => .ok hrest

theorem readExponent_leaves (cut : ReadError) (cs : List Char) :
    Leaves (cs.length + 1) (readExponent cut cs) := by
  unfold readExponent
  split
  next c rest =>
    refine .ite ?_ (.ok (Nat.lt_succ_self _))
    split
    all_goals
      refine (readExponentDigits_leaves cut _ _).mono ?_
      simp only [List.length_cons]
      omega
  next => exact .ok (Nat.lt_succ_self _)

theorem readNumber_leaves (cs : List Char) : Leaves cs.length (readNumber cs) := by
  have hspelling : Leaves cs.length (readSpelling .unfinished cs) := by
    unfold readSpelling
    split
    next negative ds heq =>
      have hds : ds.length ≤ cs.length := by
        split at heq
        · rw [← (Prod.mk.inj heq).2]
          exact Nat.le_succ _
        · rw [← (Prod.mk.inj heq).2]
      have hwhole : Leaves ds.length (readWhole .unfinished ds) :=
        (readDigits_leaves _ ds).bind fun _ _ hrest => .ite (.error _) (.ok hrest)
      refine hwhole.bind fun _ rest hrest => ?_
      refine (readFraction_leaves _ rest).bind fun _ rest' hrest' => ?_
      refine (readExponent_leaves _ rest').bind fun _ rest'' hrest'' => .ok ?_
      omega
  exact hspelling.bind fun _ _ hrest => .ite (.ok hrest) (.error _)

theorem readWord_leaves (ws cs : List Char) : Leaves (cs.length + 1) (readWord ws cs) := by
  induction ws generalizing cs with
  | nil => exact .ok (Nat.lt_succ_self _)
  | cons w ws ih =>
      cases cs with
      | nil => exact .error _
      | cons c cs => exact .ite ((ih cs).mono (Nat.le_succ _)) (.error _)

theorem readUnit_leaves (cs : List Char) : Leaves (cs.length + 1) (readUnit cs) := by
  unfold readUnit
  split
  · refine .ok ?_
    rw [List.length_drop]
    omega
  · exact .ite (.error _) (.error _)

theorem readEscape_leaves (cs : List Char) : Leaves (cs.length + 1) (readEscape cs) := by
  have hlow : ∀ high (cs : List Char), Leaves (cs.length + 1) (readLowSurrogate high cs) := by
    intro high cs
    unfold readLowSurrogate
    split
    · exact .error _
    · exact .error _
    next rest =>
      refine (readUnit_leaves rest).bind fun _ rest' hrest => .ite (.ok ?_) (.error _)
      simp only [List.length_cons]
      omega
    · exact .error _
  unfold readEscape
  split
  · exact .error _
  next rest =>
    refine (readUnit_leaves rest).bind fun u rest' hrest => .ite (.error _) (.ite ?_ (.ok ?_))
    · refine (hlow u rest').mono ?_
      simp only [List.length_cons]
      omega
    · simp only [List.length_cons]
      omega
  next c rest _ =>
    split
    · refine .ok ?_
      simp only [List.length_cons]
      omega
    · exact .error _

theorem readChars_leaves (bound : Nat) (cs : List Char) :
    Leaves (cs.length + 1) (readChars bound cs) := by
  induction bound generalizing cs with
  | zero => exact .error _
  | succ bound ih =>
      cases cs with
      | nil => exact .error _
      | cons c cs =>
          unfold readChars
          simp only [List.length_cons]
          refine .ite (.ok (by omega)) (.ite ?_ (.ite (.error _) ?_))
          · refine (readEscape_leaves cs).bind fun _ rest hrest => ?_
            exact (ih rest).bind fun _ rest' hrest' => .ok (show rest'.length < _ by omega)
          · exact (ih cs).bind fun _ rest hrest => .ok (show rest.length < _ by omega)

theorem readString_leaves (cs : List Char) : Leaves (cs.length + 1) (readString cs) :=
  (readChars_leaves _ cs).bind fun _ _ hrest => .ok hrest

/-! ## Arrays and objects -/

theorem moreElements_leaves (first : Bool) (cs : List Char) :
    Leaves (cs.length + 1) (moreElements first cs) := by
  have hle := length_skipBlanks_le cs
  unfold moreElements
  split
  · exact .error _
  next rest heq =>
    rw [heq] at hle
    exact .ok (by omega)
  next c rest _ heq =>
    rw [heq] at hle
    refine .ite (.ok (by omega)) (.ite ?_ (.error _))
    split
    · exact .error _
    · exact .error _
    next rest' _ _ heq' =>
      have hle' := length_skipBlanks_le rest
      rw [List.length_cons] at hle
      exact .ok (by omega)

/-- Where another element follows, its comma has been taken. -/
theorem length_lt_of_moreElements {rest : List Char}
    (h : moreElements false cs = .ok (true, rest)) : rest.length < cs.length := by
  unfold moreElements at h
  split at h
  · cases h
  · cases h
  next c tail _ heq =>
    have hlt := length_lt_of_skipBlanks heq
    simp only [Bool.false_eq_true, if_false] at h
    split at h
    · split at h
      · cases h
      · cases h
      next rest' _ _ =>
        have hle := length_skipBlanks_le tail
        rw [Except.ok.injEq, Prod.mk.injEq] at h
        rw [← h.2]
        omega
    · cases h

theorem closeArray_leaves (cs : List Char) : Leaves cs.length (closeArray cs) := by
  unfold closeArray
  split
  · exact .error _
  next heq => exact .ok (length_lt_of_skipBlanks heq)
  · exact .error _

theorem foldElements_leaves {σ : Type} {element : σ → Reader σ}
    (helement : ∀ s cs, Leaves (cs.length + 1) (element s cs)) (bound : Nat) (first : Bool) (s : σ)
    (cs : List Char) : Leaves (cs.length + 1) (foldElements element bound first s cs) := by
  induction bound generalizing first s cs with
  | zero => exact .error _
  | succ bound ih =>
      refine (moreElements_leaves first cs).bind fun more rest hrest => .ite ?_ ?_
      · refine (helement s rest).bind fun s' rest' hrest' => ?_
        exact (ih false s' rest').mono (by omega)
      · exact (closeArray_leaves rest).bind fun _ rest' hrest' => .ok (by omega)

/-- Rounds after the first take a comma each, so a bound that exceeds the text is never met. -/
theorem foldElements_bound {σ : Type} {element : σ → Reader σ}
    (helement : ∀ s cs, Leaves (cs.length + 1) (element s cs)) {bound bound' : Nat} (s : σ)
    (hbound : cs.length < bound) (hbound' : cs.length < bound') :
    foldElements element bound false s cs = foldElements element bound' false s cs := by
  induction bound generalizing bound' s cs with
  | zero => omega
  | succ bound ih =>
      obtain ⟨bound', rfl⟩ : ∃ b, bound' = b + 1 := ⟨bound' - 1, by omega⟩
      unfold foldElements
      cases hmore : moreElements false cs with
      | error e => rfl
      | ok read =>
          obtain ⟨more, rest⟩ := read
          cases more with
          | false => rfl
          | true =>
              have hcomma := length_lt_of_moreElements hmore
              show (element s rest >>= _) = (element s rest >>= _)
              cases hread : element s rest with
              | error e => rfl
              | ok read =>
                  have hrest := helement s rest read.1 read.2 hread
                  exact ih read.1 (by omega) (by omega)

theorem moreMembers_leaves (first : Bool) (cs : List Char) :
    Leaves (cs.length + 1) (moreMembers first cs) := by
  have hle := length_skipBlanks_le cs
  unfold moreMembers
  split
  · exact .error _
  next rest heq =>
    rw [heq] at hle
    exact .ok (by omega)
  next c rest _ heq =>
    rw [heq, List.length_cons] at hle
    refine .ite (.ite (.ok (by omega)) (.error _)) (.ite ?_ (.error _))
    split
    · exact .error _
    next heq' =>
      have hlt := length_lt_of_skipBlanks heq'
      exact .ok (by omega)
    · exact .error _

theorem readColon_leaves (cs : List Char) : Leaves cs.length (readColon cs) := by
  unfold readColon
  split
  · exact .error _
  next heq => exact .ok (length_lt_of_skipBlanks heq)
  · exact .error _

theorem closeObject_leaves (cs : List Char) : Leaves cs.length (closeObject cs) := by
  unfold closeObject
  split
  · exact .error _
  next heq => exact .ok (length_lt_of_skipBlanks heq)
  · exact .error _

theorem foldMembers_leaves {σ : Type} {member : σ → String → Reader σ}
    (hmember : ∀ s key cs, Leaves (cs.length + 1) (member s key cs)) (bound : Nat) (first : Bool)
    (s : σ) (cs : List Char) : Leaves (cs.length + 1) (foldMembers member bound first s cs) := by
  induction bound generalizing first s cs with
  | zero => exact .error _
  | succ bound ih =>
      refine (moreMembers_leaves first cs).bind fun more rest hrest => .ite ?_ (.ok hrest)
      refine (readString_leaves rest).bind fun key rest' hrest' => ?_
      refine (hmember s key rest').bind fun s' rest'' hrest'' => ?_
      exact (ih false s' rest'').mono (by omega)

/-! ## Values -/

/-- The next element of an array is put before those that have been read. -/
def pushElement (room : Nat) (es : List Json) : Reader (List Json) := fun cs => do
  let (e, cs) ← readValue room cs
  .ok (e :: es, cs)

/-- The next member of an object is put before those that have been read. -/
def pushMember (room : Nat) (ms : List (String × Json)) (key : String) :
    Reader (List (String × Json)) := fun cs => do
  let ((), cs) ← readColon cs
  let (v, cs) ← readValue room cs
  .ok ((key, v) :: ms, cs)

section Forms

variable {room : Nat} {rest : List Char}

/-- The text begins neither an array nor an object. -/
def Plain (cs : List Char) : Prop :=
  (∀ rest, skipBlanks cs ≠ '[' :: rest) ∧ ∀ rest, skipBlanks cs ≠ '\x7b' :: rest

theorem plain_or_bracket (cs : List Char) :
    (∃ rest, skipBlanks cs = '[' :: rest) ∨ (∃ rest, skipBlanks cs = '\x7b' :: rest) ∨
      Plain cs := by
  by_cases harray : ∃ rest, skipBlanks cs = '[' :: rest
  · exact .inl harray
  · by_cases hobject : ∃ rest, skipBlanks cs = '\x7b' :: rest
    · exact .inr (.inl hobject)
    · exact .inr (.inr ⟨not_exists.mp harray, not_exists.mp hobject⟩)

theorem readValue_array (h : skipBlanks cs = '[' :: rest) :
    readValue (room + 1) cs = (do
      let (es, rest) ← foldElements (pushElement room) (rest.length + 1) true [] rest
      .ok (array es.reverse, rest)) := by
  rw [readValue.eq_def, h]
  rfl

theorem readValue_object (h : skipBlanks cs = '\x7b' :: rest) :
    readValue (room + 1) cs = (do
      let (ms, rest) ← foldMembers (pushMember room) (rest.length + 1) true [] rest
      let ((), rest) ← closeObject rest
      .ok (object ms.reverse, rest)) := by
  rw [readValue.eq_def, h]
  rfl

/-- Plain values need no room. -/
theorem readValue_plain (h : Plain cs) : readValue room cs = readValue 0 cs := by
  rw [readValue.eq_def, readValue.eq_def 0]
  split
  case h_6 rest heq => exact absurd heq (h.1 rest)
  case h_7 rest heq => exact absurd heq (h.2 rest)
  all_goals rfl

/-- The value is no array and no object, and it is a string only behind a quotation mark. -/
structure PlainValue (cs : List Char) (j : Json) : Prop where
  array : ∀ es, j ≠ array es
  object : ∀ ms, j ≠ object ms
  string : ∀ s, j = string s → ∃ rest, skipBlanks cs = '"' :: rest

/-- Without room only plain values are read, and less text is left. -/
theorem readValue_zero_yields (cs : List Char) :
    Yields (fun j rest => PlainValue cs j ∧ rest.length < cs.length) (readValue 0 cs) := by
  have hword : ∀ (ws rest : List Char) (c : Char) (j : Json), skipBlanks cs = c :: rest →
      PlainValue cs j →
      Yields (fun j rest => PlainValue cs j ∧ rest.length < cs.length) (do
        let ((), rest) ← readWord ws rest
        .ok (j, rest)) := by
    intro ws rest c j heq hj
    have hlt := length_lt_of_skipBlanks heq
    refine (readWord_leaves ws rest).bind fun _ rest' hrest => .ok ⟨hj, ?_⟩
    omega
  rw [readValue.eq_def]
  split
  case h_1 => exact .error _
  case h_2 rest heq => exact hword _ rest _ null heq ⟨by simp, by simp, by simp⟩
  case h_3 rest heq => exact hword _ rest _ (bool true) heq ⟨by simp, by simp, by simp⟩
  case h_4 rest heq => exact hword _ rest _ (bool false) heq ⟨by simp, by simp, by simp⟩
  case h_5 rest heq =>
    have hlt := length_lt_of_skipBlanks heq
    refine (readString_leaves rest).bind fun _ rest' hrest => .ok ⟨⟨?_, ?_, fun _ _ => ?_⟩, ?_⟩
    · simp
    · simp
    · exact ⟨rest, heq⟩
    · omega
  case h_6 => exact .error _
  case h_7 => exact .error _
  case h_8 c rest _ _ _ _ _ _ heq =>
    have hle := length_skipBlanks_le cs
    rw [heq] at hle
    refine .ite ((readNumber_leaves _).bind fun n rest' hrest => .ok ⟨?_, ?_⟩) (.error _)
    · unfold Spelling.value
      split <;> exact ⟨by simp, by simp, by simp⟩
    · omega

theorem readValue_string (h : skipBlanks cs = '"' :: rest) :
    readValue room cs = (do
      let (s, rest) ← readString rest
      .ok (string s, rest)) := by
  rw [readValue.eq_def, h]
  rfl

/-- Only what begins with a quotation mark is read as a string. -/
theorem quote_of_readValue {s : String} (h : readValue room cs = .ok (string s, rest)) :
    ∃ tail, skipBlanks cs = '"' :: tail := by
  cases room with
  | zero => exact (readValue_zero_yields cs _ _ h).1.string s rfl
  | succ room =>
      rcases plain_or_bracket cs with ⟨tail, heq⟩ | ⟨tail, heq⟩ | hplain
      · have harray : Yields (fun j _ => j ≠ string s) (readValue (room + 1) cs) := by
          rw [readValue_array heq]
          exact .after fun es rest => .ok (by simp)
        exact absurd rfl (harray _ _ h)
      · have hobject : Yields (fun j _ => j ≠ string s) (readValue (room + 1) cs) := by
          rw [readValue_object heq]
          exact .after fun ms rest => .after fun _ rest => .ok (by simp)
        exact absurd rfl (hobject _ _ h)
      · rw [readValue_plain hplain] at h
        exact (readValue_zero_yields cs _ _ h).1.string s rfl

@[simp]
theorem skipBlanks_skipBlanks (cs : List Char) : skipBlanks (skipBlanks cs) = skipBlanks cs :=
  List.dropWhile_eq_self_iff.mpr (List.dropWhile_get_zero_not isBlank cs)

theorem readValue_skipBlanks (room : Nat) (cs : List Char) :
    readValue room (skipBlanks cs) = readValue room cs := by
  rw [readValue.eq_def, readValue.eq_def room cs, skipBlanks_skipBlanks]

/-- A value that can be read is refused for its type and for nothing else. -/
theorem refuse_of_ok {j : Json} (h : readValue room cs = .ok (j, rest)) :
    refuse (skipBlanks cs) = .mismatch := by
  rcases plain_or_bracket cs with ⟨tail, heq⟩ | ⟨tail, heq⟩ | hplain
  · rw [heq]
    rfl
  · rw [heq]
    rfl
  · have hread : readValue 0 (skipBlanks cs) = .ok (j, rest) := by
      rw [readValue_skipBlanks, ← readValue_plain hplain, h]
    unfold refuse
    split
    · rfl
    · rfl
    · rw [hread]

end Forms

/-- Whoever reads a value leaves less text. -/
theorem readValue_leaves (room : Nat) (cs : List Char) : Leaves cs.length (readValue room cs) := by
  induction room generalizing cs with
  | zero => exact fun j rest heq => (readValue_zero_yields cs j rest heq).2
  | succ room ih =>
      rcases plain_or_bracket cs with ⟨rest, heq⟩ | ⟨rest, heq⟩ | hplain
      · have hlt := length_lt_of_skipBlanks heq
        have helement : ∀ es cs, Leaves (cs.length + 1) (pushElement room es cs) := fun es cs =>
          (ih cs).bind fun _ rest hrest => .ok (Nat.lt_succ_of_lt hrest)
        rw [readValue_array heq]
        exact (foldElements_leaves helement _ _ _ rest).bind fun _ rest' hrest =>
          .ok (show rest'.length < _ by omega)
      · have hlt := length_lt_of_skipBlanks heq
        have hmember : ∀ ms key cs, Leaves (cs.length + 1) (pushMember room ms key cs) := by
          intro ms key cs
          refine (readColon_leaves cs).bind fun _ rest hrest => ?_
          exact (ih rest).bind fun _ rest' hrest' => .ok (show rest'.length < _ by omega)
        rw [readValue_object heq]
        refine (foldMembers_leaves hmember _ _ _ rest).bind fun _ rest' hrest => ?_
        exact (closeObject_leaves rest').bind fun _ rest'' hrest' =>
          .ok (show rest''.length < _ by omega)
      · rw [readValue_plain hplain]
        exact fun j rest heq => (readValue_zero_yields cs j rest heq).2

end ChangeNotice.Json
