import Mathlib.Data.List.TakeWhile
import Mathlib.Order.Nat
import ChangeNotice.Json.Reader

/-! # Values are read back from their texts

Reading the compact text of a value gives the value again and leaves what follows,
provided the text does not end in a number that what follows would continue. Each
reader is shown to take exactly what the writer has put there, with any rest behind
it, so the results for elements and members are folded along their lists.

Left out are numbers that are kept by their digits: nothing is written with them.
-/

namespace ChangeNotice.Json

variable {rest : List Char} {room : Nat}

/-! ## Numbers -/

/-- What follows does not continue a number. -/
def EndsNumber (rest : List Char) : Prop :=
  ∀ c ∈ rest.head?, c.isDigit = false ∧ c ≠ '.' ∧ c ≠ 'e' ∧ c ≠ 'E'

theorem endsNumber_nil : EndsNumber [] := by
  intro c hc
  cases hc

theorem endsNumber_cons {c : Char} (hc : c = ',' ∨ c = ']' ∨ c = '\x7d') :
    EndsNumber (c :: rest) := by
  intro d hd
  obtain rfl : c = d := by simpa using hd
  rcases hc with rfl | rfl | rfl <;> decide

/-- Only the number zero is written with a zero in front. -/
theorem toDigits_of_head_zero {n : Nat} (h : (Nat.toDigits 10 n).head? = some '0') :
    Nat.toDigits 10 n = ['0'] := by
  induction n using Nat.strong_induction_on with
  | _ n ih =>
    rw [Nat.toDigits_eq_if (by decide)] at h ⊢
    by_cases hn : n < 10
    · rw [if_pos hn] at h ⊢
      simpa using h
    · rw [if_neg hn, List.head?_append, Option.or_of_isSome (by simp)] at h
      -- a number whose digits but the last are those of zero has one digit only
      have hzero : Nat.toDigits 10 (n / 10) = ['0'] := ih (n / 10) (by omega) h
      have : n / 10 = 0 := by
        rw [← @Nat.ofDigitChars_toDigits 10 (n / 10) (by decide) (by decide), hzero]
        rfl
      omega

theorem exists_toDigits_eq_cons (n : Nat) :
    ∃ c ds, Nat.toDigits 10 n = c :: ds ∧ c.isDigit = true := by
  obtain ⟨c, ds, h⟩ := List.exists_cons_of_ne_nil (@Nat.toDigits_ne_nil n 10)
  exact ⟨c, ds, h, Nat.isDigit_of_mem_toDigits (by decide) (by decide) (h ▸ List.mem_cons_self)⟩

theorem readDigits_append {cut : ReadError} {ds : List Char} (hne : ds ≠ [])
    (hds : ∀ c ∈ ds, c.isDigit = true) (hrest : EndsNumber rest) :
    readDigits cut (ds ++ rest) = .ok (ds, rest) := by
  obtain ⟨c, cs, rfl⟩ := List.exists_cons_of_ne_nil hne
  have hstop : rest.takeWhile Char.isDigit = [] ∧ rest.dropWhile Char.isDigit = rest := by
    cases rest with
    | nil => exact ⟨rfl, rfl⟩
    | cons d rest => simp [(hrest d (by simp)).1]
  have htake : (c :: cs ++ rest).takeWhile Char.isDigit = c :: cs := by
    rw [List.takeWhile_append_of_pos hds, hstop.1, List.append_nil]
  have hdrop : (c :: cs ++ rest).dropWhile Char.isDigit = rest := by
    rw [List.dropWhile_append_of_pos hds, hstop.2]
  simp only [readDigits.eq_def, List.cons_append, hds c List.mem_cons_self, if_true]
    at htake hdrop ⊢
  rw [htake, hdrop]

/-- The spelling of a natural number. -/
def Spelling.ofNat (n : Nat) : Spelling := ⟨false, Nat.toDigits 10 n, none, none⟩

theorem readFraction_none {cut : ReadError} (hrest : EndsNumber rest) :
    readFraction cut rest = .ok (none, rest) := by
  cases rest with
  | nil => rfl
  | cons c rest =>
    have hc := (hrest c (by simp)).2.1
    rw [readFraction]
    intro rest' h
    exact hc (List.cons.inj h).1

theorem readExponent_none {cut : ReadError} (hrest : EndsNumber rest) :
    readExponent cut rest = .ok (none, rest) := by
  cases rest with
  | nil => rfl
  | cons c rest =>
    have hc := (hrest c (by simp)).2.2
    simp only [readExponent.eq_def, hc.1, hc.2, or_self, if_false]

theorem readSpelling_toDigits (cut : ReadError) (n : Nat) (hrest : EndsNumber rest) :
    readSpelling cut (Nat.toDigits 10 n ++ rest) = .ok (.ofNat n, rest) := by
  have hdigits : ∀ c ∈ Nat.toDigits 10 n, c.isDigit = true := fun c hc =>
    Nat.isDigit_of_mem_toDigits (by decide) (by decide) hc
  have hwhole : readWhole cut (Nat.toDigits 10 n ++ rest) = .ok (Nat.toDigits 10 n, rest) := by
    rw [readWhole, readDigits_append Nat.toDigits_ne_nil hdigits hrest]
    show (if _ then _ else _) = _
    rw [if_neg]
    rintro ⟨hhead, hne⟩
    exact hne (toDigits_of_head_zero hhead)
  rw [readSpelling]
  · show (readWhole cut (Nat.toDigits 10 n ++ rest) >>= _) = _
    rw [hwhole]
    show (readFraction cut rest >>= _) = _
    rw [readFraction_none hrest]
    show (readExponent cut rest >>= _) = _
    rw [readExponent_none hrest]
    rfl
  · intro rest' h
    obtain ⟨c, ds, hcons, hc⟩ := exists_toDigits_eq_cons n
    rw [hcons] at h
    rw [(List.cons.inj h).1] at hc
    exact absurd hc (by decide)

theorem le_ofDigitChars (ds : List Char) (s : Nat) : s ≤ Nat.ofDigitChars 10 ds s := by
  induction ds generalizing s with
  | nil => exact Nat.le_refl _
  | cons d ds ih =>
    refine Nat.le_trans ?_ (ih (10 * s + digitValue d))
    omega

theorem absorb_of_lt {ds : List Char} {s : Nat} (h : Nat.ofDigitChars 10 ds s < wordLimit) :
    absorb s ds = (Nat.ofDigitChars 10 ds s, []) := by
  induction ds generalizing s with
  | nil => rfl
  | cons d ds ih =>
    have hle := le_ofDigitChars ds (10 * s + digitValue d)
    rw [absorb, if_pos (Nat.lt_of_le_of_lt hle h)]
    exact ih h

theorem roundToDouble_le (n : Nat) : roundToDouble n ≤ 2 * n + 1 := by
  have hunit : Nat.pow 2 (n.log2 - 52) ≤ n + 1 := by
    by_cases hn : n = 0
    · subst hn
      decide
    · refine Nat.le_trans (Nat.pow_le_pow_right (by decide) (Nat.sub_le _ _)) ?_
      exact Nat.le_succ_of_le (Nat.log2_self_le hn)
  have hlow := Nat.div_mul_le_self n (Nat.pow 2 (n.log2 - 52))
  simp only [roundToDouble]
  split
  · omega
  · rw [Nat.add_mul]
    omega

theorem inRange_ofNat {n : Nat} (hn : n < wordLimit) : (Spelling.ofNat n).inRange = true := by
  have hvalue : Nat.ofDigitChars 10 (Nat.toDigits 10 n) 0 = n :=
    Nat.ofDigitChars_toDigits (by decide) (by decide)
  have hscaled : (Spelling.ofNat n).scaled = (n, 0) := by
    have habsorb : absorb 0 (Nat.toDigits 10 n) = (n, []) := by
      rw [absorb_of_lt (by rw [hvalue]; exact hn), hvalue]
    simp [Spelling.scaled, Spelling.ofNat, habsorb, absorb]
  have hround := roundToDouble_le n
  have hone : roundToDouble 1 = 1 := by decide
  have hlimit : 2 * wordLimit + 1 < doubleLimit := by decide +kernel
  have hfits : ¬doubleLimit ≤ roundToDouble n * roundToDouble 1 := by
    rw [hone]
    omega
  rw [Spelling.inRange, hscaled]
  simp only [overflows, Int.toNat_zero, Bool.not_eq_true', Bool.and_eq_false_iff]
  right
  rw [if_neg (by decide), if_neg (by decide)]
  exact decide_eq_false hfits

theorem readNumber_toDigits {n : Nat} (hn : n < wordLimit) (hrest : EndsNumber rest) :
    readNumber (Nat.toDigits 10 n ++ rest) = .ok (.ofNat n, rest) := by
  rw [readNumber, readSpelling_toDigits _ n hrest]
  show (if _ then _ else _) = _
  rw [if_pos (inRange_ofNat hn)]

theorem natural?_ofNat (n : UInt64) : (Spelling.ofNat n.toNat).natural? = some n := by
  have hvalue : digitsValue (Nat.toDigits 10 n.toNat) = n.toNat :=
    Nat.ofDigitChars_toDigits (by decide) (by decide)
  rw [Spelling.natural?, if_neg (by simp [Spelling.ofNat])]
  simp only [Spelling.ofNat, hvalue]
  rw [if_pos (show n.toNat < wordLimit from n.toNat_lt), UInt64.ofNat_toNat]

/-! ## Strings -/

theorem hexValue?_hexDigit (n : Nat) : hexValue? (hexDigit n) = some (n % 16) := by
  have hdigits : ∀ k < 16, hexValue? (Nat.digitChar k) = some k := by decide
  exact hdigits _ (Nat.mod_lt n (by decide))

theorem readUnit_control {k : Nat} (hk : k < 32) :
    readUnit ('0' :: '0' :: hexDigit (k / 16) :: hexDigit k :: rest) = .ok (k, rest) := by
  have hzero : hexValue? '0' = some 0 := by decide
  have hvalue : ((0 * 16 + 0) * 16 + k / 16 % 16) * 16 + k % 16 = k := by omega
  simp only [readUnit, List.take_succ_cons, List.take_zero, List.mapM_cons, List.mapM_nil, hzero,
    hexValue?_hexDigit, List.drop_succ_cons, List.drop_zero, Option.pure_def, Option.bind_eq_bind,
    Option.bind_some, hvalue]

/-- Control characters are no surrogates. -/
theorem readEscape_control {k : Nat} (hk : k < 32) :
    readEscape ('u' :: '0' :: '0' :: hexDigit (k / 16) :: hexDigit k :: rest) =
      .ok (Char.ofNat k, rest) := by
  have hlow : isLowSurrogate k = false := by
    rw [isLowSurrogate, Bool.and_eq_false_iff, decide_eq_false_iff_not]
    omega
  have hhigh : isHighSurrogate k = false := by
    rw [isHighSurrogate, Bool.and_eq_false_iff, decide_eq_false_iff_not]
    omega
  show (readUnit _ >>= _) = _
  rw [readUnit_control hk]
  simp only [bind, Except.bind, hlow, hhigh]
  rfl

/-- One written character is read as that character. -/
theorem readChars_escape (bound : Nat) (c : Char) (cs : List Char) :
    readChars (bound + 1) (escape c ++ cs) = (do
      let (ds, cs) ← readChars bound cs
      .ok (c :: ds, cs)) := by
  by_cases hquote : c = '"'
  · subst hquote; rfl
  by_cases hslash : c = '\\'
  · subst hslash; rfl
  by_cases hline : c = '\n'
  · subst hline; rfl
  by_cases hreturn : c = '\r'
  · subst hreturn; rfl
  by_cases htab : c = '\t'
  · subst htab; rfl
  by_cases hback : c.toNat = 8
  · obtain rfl : c = Char.ofNat 8 := by rw [← hback, Char.ofNat_toNat]
    rfl
  by_cases hfeed : c.toNat = 12
  · obtain rfl : c = Char.ofNat 12 := by rw [← hfeed, Char.ofNat_toNat]
    rfl
  rw [escape, if_neg hquote, if_neg hslash, if_neg hline, if_neg hreturn, if_neg htab, if_neg hback,
    if_neg hfeed]
  by_cases hcontrol : c.toNat < 32
  · rw [if_pos hcontrol]
    show (readEscape (_ :: _ :: _ :: _ :: _ :: cs) >>= _) = _
    rw [readEscape_control hcontrol, Char.ofNat_toNat]
    rfl
  · rw [if_neg hcontrol, List.singleton_append, readChars, if_neg hquote, if_neg hslash,
      if_neg hcontrol]

theorem readChars_quoted {ds : List Char} {bound : Nat} (hbound : ds.length < bound) :
    readChars bound (ds.flatMap escape ++ '"' :: rest) = .ok (ds, rest) := by
  induction ds generalizing bound with
  | nil =>
    obtain ⟨bound, rfl⟩ := Nat.exists_eq_add_of_lt hbound
    simp [readChars]
  | cons d ds ih =>
    obtain ⟨bound, rfl⟩ : ∃ b, bound = b + 1 := ⟨bound - 1, by omega⟩
    rw [List.flatMap_cons, List.append_assoc, readChars_escape,
      ih (by simpa using hbound)]
    rfl

theorem length_le_flatMap_escape (ds : List Char) : ds.length ≤ (ds.flatMap escape).length := by
  induction ds with
  | nil => exact Nat.le_refl _
  | cons d ds ih =>
    have hite : ∀ (p : Prop) [Decidable p] (cs cs' : List Char), 1 ≤ cs.length → 1 ≤ cs'.length →
        1 ≤ (if p then cs else cs').length := by
      intro p _ cs cs' hcs hcs'
      split
      · exact hcs
      · exact hcs'
    have hone : 1 ≤ (escape d).length := by
      unfold escape
      repeat' apply hite
      all_goals exact Nat.succ_le_succ (Nat.zero_le _)
    rw [List.flatMap_cons, List.length_append, List.length_cons]
    omega

/-- A quoted string without its opening mark is read as the string. -/
theorem readString_quoted (s : String) :
    readString (s.toList.flatMap escape ++ '"' :: rest) = .ok (s, rest) := by
  have hlength := length_le_flatMap_escape s.toList
  rw [readString, readChars_quoted (by rw [List.length_append]; omega)]
  show Except.ok (String.ofList s.toList, rest) = _
  rw [String.ofList_toList]

theorem quoted_append (s : String) (cs : List Char) :
    quoted s ++ cs = '"' :: (s.toList.flatMap escape ++ '"' :: cs) := by
  simp [quoted]

theorem skipBlanks_cons {c : Char} (hc : isBlank c = false) :
    skipBlanks (c :: rest) = c :: rest := by
  simp [skipBlanks, hc]

theorem readText_quoted (s : String) : readText (quoted s ++ rest) = .ok (s, rest) := by
  rw [quoted_append, readText, skipBlanks_cons (by decide)]
  exact readString_quoted s

/-! ## Plain values of a wanted type -/

theorem isBlank_of_isDigit {c : Char} (hc : c.isDigit = true) : isBlank c = false := by
  rw [Bool.eq_false_iff]
  intro hblank
  simp only [isBlank, Bool.or_eq_true, beq_iff_eq] at hblank
  rcases hblank with ((rfl | rfl) | rfl) | rfl <;> exact absurd hc (by decide)

theorem readNatural_chars {limit : Nat} (n : UInt64) (hn : n.toNat < limit)
    (hrest : EndsNumber rest) :
    readNatural limit ((natural n).chars ++ rest) = .ok (n, rest) := by
  obtain ⟨c, ds, hcons, hc⟩ := exists_toDigits_eq_cons n.toNat
  have hnumber := readNumber_toDigits n.toNat_lt hrest
  rw [chars, readNatural]
  rw [hcons, List.cons_append] at hnumber ⊢
  rw [skipBlanks_cons (isBlank_of_isDigit hc)]
  simp only [hc, or_true, if_true, hnumber]
  dsimp only [bind, Except.bind]
  rw [natural?_ofNat]
  exact if_pos hn

theorem readBool_chars (b : Bool) : readBool ((bool b).chars ++ rest) = .ok (b, rest) := by
  cases b <;> rfl

/-! ## Elements and members -/

/-- Each of the values is read by the step, whatever follows it. -/
inductive GathersElements {σ : Type} (element : σ → Reader σ) : σ → List Json → σ → Prop
  | nil {s : σ} : GathersElements element s [] s
  | cons {s t u : σ} {e : Json} {es : List Json}
      (hstep : ∀ rest, EndsNumber rest → element s (e.chars ++ rest) = .ok (t, rest))
      (hrest : GathersElements element t es u) : GathersElements element s (e :: es) u

/-- Each of the members is read by the step, whatever follows it. -/
inductive Gathers {σ : Type} (member : σ → String → Reader σ) :
    σ → List (String × Json) → σ → Prop
  | nil {s : σ} : Gathers member s [] s
  | cons {s t u : σ} {k : String} {v : Json} {ms : List (String × Json)}
      (hstep : ∀ rest, EndsNumber rest → member s k (':' :: v.chars ++ rest) = .ok (t, rest))
      (hrest : Gathers member t ms u) : Gathers member s ((k, v) :: ms) u

theorem endsNumber_memberChars (ms : List (String × Json)) :
    EndsNumber (memberChars false ms ++ '\x7d' :: rest) := by
  cases ms with
  | nil => exact endsNumber_cons (by simp)
  | cons m ms => exact endsNumber_cons (by simp)

theorem readColon_cons : readColon (':' :: rest) = .ok ((), rest) := rfl

theorem moreMembers_separator (first : Bool) (k : String) (cs : List Char) :
    moreMembers first (separator first ++ quoted k ++ cs) =
      .ok (true, k.toList.flatMap escape ++ '"' :: cs) := by
  rw [List.append_assoc, quoted_append]
  cases first <;> rfl

/-- The members of a written object are gathered one after the other. -/
theorem foldMembers_memberChars {σ : Type} {member : σ → String → Reader σ} {s t : σ}
    {ms : List (String × Json)} (h : Gathers member s ms t) {bound : Nat} (first : Bool)
    (hbound : ms.length < bound) :
    foldMembers member bound first s (memberChars first ms ++ '\x7d' :: rest) =
      .ok (t, '\x7d' :: rest) := by
  induction h generalizing bound first with
  | nil =>
    obtain ⟨bound, rfl⟩ : ∃ b, bound = b + 1 := ⟨bound - 1, by omega⟩
    rfl
  | @cons s t u k v ms hstep hrest ih =>
    obtain ⟨bound, rfl⟩ : ∃ b, bound = b + 1 := ⟨bound - 1, by omega⟩
    have hmore := moreMembers_separator first k
      (':' :: v.chars ++ (memberChars false ms ++ '\x7d' :: rest))
    rw [memberChars]
    simp only [List.append_assoc, List.cons_append] at hmore ⊢
    rw [foldMembers, hmore]
    show (readString _ >>= _) = _
    rw [readString_quoted]
    show (member s k (':' :: v.chars ++ _) >>= _) = _
    rw [hstep _ (endsNumber_memberChars ms)]
    exact ih false (by simpa using hbound)

theorem length_le_memberChars (first : Bool) (ms : List (String × Json)) :
    ms.length ≤ (memberChars first ms).length := by
  induction ms generalizing first with
  | nil => exact Nat.zero_le _
  | cons m ms ih =>
    have hrest := ih false
    rw [memberChars]
    simp only [List.length_append, List.length_cons, quoted]
    omega

theorem endsNumber_elementChars (es : List Json) :
    EndsNumber (elementChars false es ++ ']' :: rest) := by
  cases es with
  | nil => exact endsNumber_cons (by simp)
  | cons e es => exact endsNumber_cons (by simp)

/-- The character can be the first of an element. -/
def Begins (cs : List Char) : Prop :=
  ∃ c rest, cs = c :: rest ∧ isBlank c = false ∧ c ≠ ']'

theorem Begins.append {cs : List Char} (h : Begins cs) (rest : List Char) :
    Begins (cs ++ rest) := by
  obtain ⟨c, tail, rfl, hc⟩ := h
  exact ⟨c, tail ++ rest, rfl, hc⟩

theorem moreElements_separator {cs : List Char} (first : Bool) (h : Begins cs) :
    moreElements first (separator first ++ cs) = .ok (true, cs) := by
  obtain ⟨c, rest, rfl, hblank, hc⟩ := h
  cases first <;>
    simp [moreElements, separator, skipBlanks_cons hblank,
      skipBlanks_cons (show isBlank ',' = false from rfl), hc]

/-- The elements of a written array are gathered one after the other. -/
theorem foldElements_elementChars {σ : Type} {element : σ → Reader σ} {s t : σ}
    {es : List Json} (h : GathersElements element s es t) (hbegins : ∀ e ∈ es, Begins e.chars)
    {bound : Nat} (first : Bool) (hbound : es.length < bound) :
    foldElements element bound first s (elementChars first es ++ ']' :: rest) =
      .ok (t, rest) := by
  induction h generalizing bound first with
  | nil =>
    obtain ⟨bound, rfl⟩ : ∃ b, bound = b + 1 := ⟨bound - 1, by omega⟩
    rfl
  | @cons s t u e es hstep hrest ih =>
    obtain ⟨bound, rfl⟩ : ∃ b, bound = b + 1 := ⟨bound - 1, by omega⟩
    have hmore := moreElements_separator first
      ((hbegins e List.mem_cons_self).append (elementChars false es ++ ']' :: rest))
    rw [elementChars]
    simp only [List.append_assoc] at hmore ⊢
    rw [foldElements, hmore]
    show (element s (e.chars ++ _) >>= _) = _
    rw [hstep _ (endsNumber_elementChars es)]
    exact ih (fun e he => hbegins e (List.mem_cons_of_mem _ he)) false (by simpa using hbound)

theorem length_le_elementChars {es : List Json} (hbegins : ∀ e ∈ es, Begins e.chars)
    (first : Bool) : es.length ≤ (elementChars first es).length := by
  induction es generalizing first with
  | nil => exact Nat.zero_le _
  | cons e es ih =>
    obtain ⟨c, tail, hchars, -⟩ := hbegins e List.mem_cons_self
    have hrest := ih (fun e he => hbegins e (List.mem_cons_of_mem _ he)) false
    rw [elementChars, hchars]
    simp only [List.length_append, List.length_cons]
    omega

/-! ## Values -/

theorem array_chars_append (es : List Json) :
    (array es).chars ++ rest = '[' :: (elementChars true es ++ ']' :: rest) := by
  simp [chars]

theorem object_chars_append (ms : List (String × Json)) :
    (object ms).chars ++ rest = '\x7b' :: (memberChars true ms ++ '\x7d' :: rest) := by
  simp [chars]

/-- The value opens at most so many brackets at once and has no number that is kept by its
digits. -/
inductive Fits : Nat → Json → Prop
  | null {room : Nat} : Fits room null
  | bool {room : Nat} (b : Bool) : Fits room (bool b)
  | natural {room : Nat} (n : UInt64) : Fits room (natural n)
  | string {room : Nat} (s : String) : Fits room (string s)
  | array {room : Nat} {es : List Json} (hes : ∀ e ∈ es, Fits room e) :
      Fits (room + 1) (array es)
  | object {room : Nat} {ms : List (String × Json)} (hms : ∀ m ∈ ms, Fits room m.2) :
      Fits (room + 1) (object ms)

theorem Fits.begins {j : Json} (h : Fits room j) : Begins j.chars := by
  cases h with
  | null => exact ⟨_, _, rfl, rfl, by decide⟩
  | bool b => cases b <;> exact ⟨_, _, rfl, rfl, by decide⟩
  | natural n =>
    obtain ⟨c, ds, hcons, hc⟩ := exists_toDigits_eq_cons n.toNat
    refine ⟨c, ds, hcons, isBlank_of_isDigit hc, ?_⟩
    rintro rfl
    exact absurd hc (by decide)
  | string s => exact ⟨_, _, rfl, rfl, by decide⟩
  | array hes => exact ⟨_, _, rfl, rfl, by decide⟩
  | object hms => exact ⟨_, _, rfl, rfl, by decide⟩

theorem readValue_number {c : Char} (hc : c.isDigit = true) (cs : List Char) :
    readValue room (c :: cs) = (do
      let (n, rest) ← readNumber (c :: cs)
      .ok (n.value, rest)) := by
  rw [readValue.eq_def, skipBlanks_cons (isBlank_of_isDigit hc)]
  simp only []
  split
  · rename_i heq
    cases heq
  -- every other kind of value begins with a character that is no digit
  all_goals
    rename_i heq
    obtain ⟨rfl, rfl⟩ := List.cons.inj heq
    first
    | exact absurd hc (by decide)
    | rw [if_pos (.inr hc)]

theorem gathersElements_readValue {es : List Json}
    (h : ∀ e ∈ es, ∀ {rest}, EndsNumber rest → readValue room (e.chars ++ rest) = .ok (e, rest))
    (acc : List Json) :
    GathersElements (fun es cs => do
      let (e, cs) ← readValue room cs
      .ok (e :: es, cs)) acc es (es.reverse ++ acc) := by
  induction es generalizing acc with
  | nil => exact .nil
  | cons e es ih =>
    rw [List.reverse_cons, List.append_assoc, List.singleton_append]
    refine .cons (fun rest hrest => ?_) (ih (fun e he => h e (List.mem_cons_of_mem _ he)) _)
    rw [h e List.mem_cons_self hrest]
    rfl

theorem gathers_readValue {ms : List (String × Json)}
    (h : ∀ m ∈ ms, ∀ {rest}, EndsNumber rest →
      readValue room (m.2.chars ++ rest) = .ok (m.2, rest)) (acc : List (String × Json)) :
    Gathers (fun ms key cs => do
      let ((), cs) ← readColon cs
      let (v, cs) ← readValue room cs
      .ok ((key, v) :: ms, cs)) acc ms (ms.reverse ++ acc) := by
  induction ms generalizing acc with
  | nil => exact .nil
  | cons m ms ih =>
    rw [List.reverse_cons, List.append_assoc, List.singleton_append]
    refine .cons (fun rest hrest => ?_) (ih (fun m hm => h m (List.mem_cons_of_mem _ hm)) _)
    rw [List.cons_append, readColon_cons]
    show (readValue room (m.2.chars ++ rest) >>= _) = _
    rw [h m List.mem_cons_self hrest]
    rfl

/-- Reading the text of a value gives the value and leaves what follows. -/
theorem readValue_chars {j : Json} (h : Fits room j) (hrest : EndsNumber rest) :
    readValue room (j.chars ++ rest) = .ok (j, rest) := by
  induction h generalizing rest with
  | null => rw [readValue.eq_def]; rfl
  | bool b => rw [readValue.eq_def]; cases b <;> rfl
  | natural n =>
    obtain ⟨c, ds, hcons, hc⟩ := exists_toDigits_eq_cons n.toNat
    have hnumber := readNumber_toDigits n.toNat_lt hrest
    rw [chars]
    rw [hcons, List.cons_append] at hnumber ⊢
    rw [readValue_number hc, hnumber]
    show Except.ok ((Spelling.ofNat n.toNat).value, rest) = _
    rw [Spelling.value, natural?_ofNat]
  | string s =>
    rw [chars, quoted_append, readValue.eq_def]
    show (readString _ >>= _) = _
    rw [readString_quoted]
    rfl
  | @array room es hes ih =>
    have hbegins : ∀ e ∈ es, Begins e.chars := fun e he => (hes e he).begins
    have hlength := length_le_elementChars hbegins true
    rw [array_chars_append, readValue.eq_def]
    show (foldElements _ _ true [] _ >>= _) = _
    rw [foldElements_elementChars (gathersElements_readValue ih []) hbegins true
      (by rw [List.length_append]; omega)]
    show Except.ok (array (es.reverse ++ []).reverse, rest) = _
    rw [List.append_nil, List.reverse_reverse]
  | @object room ms hms ih =>
    have hlength := length_le_memberChars true ms
    rw [object_chars_append, readValue.eq_def]
    show (foldMembers _ _ true [] _ >>= _) = _
    rw [foldMembers_memberChars (gathers_readValue ih []) true
      (by rw [List.length_append]; omega)]
    show Except.ok (object (ms.reverse ++ []).reverse, rest) = _
    rw [List.append_nil, List.reverse_reverse]

/-- A reader that takes the text of a value from the front of any text reads the whole text. -/
theorem readAll_text {α : Type} {read : Reader α} {j : Json} {v : α}
    (h : ∀ rest, EndsNumber rest → read (j.chars ++ rest) = .ok (v, rest)) :
    readAll read j.text = .ok v := by
  have hread := h [] endsNumber_nil
  rw [List.append_nil] at hread
  rw [readAll, text, String.toList_ofList, hread]
  rfl

/-- Every value that fits the limit is read back from its text. -/
theorem ofText_text {j : Json} (h : Fits nestingLimit j) : ofText j.text = .ok j :=
  readAll_text fun _ hrest => readValue_chars h hrest

end ChangeNotice.Json
