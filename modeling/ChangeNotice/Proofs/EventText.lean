import ChangeNotice.Event.Written
import ChangeNotice.Proofs.ReaderLaws
import ChangeNotice.Proofs.RoundTrip

/-! # Reading an event and reading a value

The reader of events walks through the text once and does not build the value first.
It checks a tag when it meets it, and the fields when the brackets are closed. Here
the two readers are followed side by side: where a value can be read, the reader of
events reads the event that the value stands for, or refuses the value for standing
for none; and where no value can be read, it reads no event.
-/

namespace ChangeNotice

open Json

variable {room : Nat} {cs rest : List Char}

/-! ## Two readers of one text -/

namespace Json

variable {α β γ δ σ τ : Type}

/-- What a reader of values and a reader for something particular make of one text. Where a value is
read, the particular reader agrees or finds that the value is not of its kind; where there is no
value, it fails as well. -/
inductive Follows (Agree : α → β → Prop) (Alien : α → Prop) :
    Except ReadError (α × List Char) → Except ReadError (β × List Char) → Prop
  | accepted {a : α} {b : β} {rest : List Char} (h : Agree a b) :
      Follows Agree Alien (.ok (a, rest)) (.ok (b, rest))
  | refused {a : α} {rest : List Char} (h : Alien a) :
      Follows Agree Alien (.ok (a, rest)) (.error .mismatch)
  | failed (e e' : ReadError) : Follows Agree Alien (.error e) (.error e')

namespace Follows

variable {Agree : α → β → Prop} {Alien : α → Prop} {Agree' : γ → δ → Prop} {Alien' : γ → Prop}

/-- What is alien stays so, whatever else is read. -/
theorem of_alien {x : Except ReadError (α × List Char)} (h : Yields (fun a _ => Alien a) x) :
    Follows Agree Alien x (.error .mismatch) := by
  cases x with
  | error e => exact .failed e _
  | ok read => exact .refused (h read.1 read.2 rfl)

theorem bind {x : Except ReadError (α × List Char)} {y : Except ReadError (β × List Char)}
    {f : α × List Char → Except ReadError (γ × List Char)}
    {g : β × List Char → Except ReadError (δ × List Char)} (h : Follows Agree Alien x y)
    (hagree : ∀ a b rest, x = .ok (a, rest) → Agree a b →
      Follows Agree' Alien' (f (a, rest)) (g (b, rest)))
    (halien : ∀ a rest, Alien a → Yields (fun c _ => Alien' c) (f (a, rest))) :
    Follows Agree' Alien' (x >>= f) (y >>= g) := by
  cases h with
  | accepted h => exact hagree _ _ _ rfl h
  | refused h => exact .of_alien (halien _ _ h)
  | failed e e' => exact .failed e e'

/-- Both go on after a part of the text that means nothing to either. -/
theorem skip {x : Except ReadError (α × List Char)}
    {f : α × List Char → Except ReadError (γ × List Char)}
    {g : α × List Char → Except ReadError (δ × List Char)}
    (h : ∀ a rest, Follows Agree' Alien' (f (a, rest)) (g (a, rest))) :
    Follows Agree' Alien' (x >>= f) (x >>= g) := by
  cases x with
  | error e => exact .failed e e
  | ok read => exact h read.1 read.2

end Follows

variable {Agree : σ → τ → Prop} {Alien : σ → Prop}

theorem foldMembers_yields {member : σ → String → Reader σ}
    (hmember : ∀ s key cs, Alien s → Yields (fun s' _ => Alien s') (member s key cs)) (bound : Nat)
    (first : Bool) {s : σ} (cs : List Char) (h : Alien s) :
    Yields (fun s' _ => Alien s') (foldMembers member bound first s cs) := by
  induction bound generalizing first s cs with
  | zero => exact .error _
  | succ bound ih =>
      refine .after fun more rest => .ite (.after fun key rest' => ?_) (.ok h)
      exact (hmember s key rest' h).bind fun s' rest'' hs' => ih false rest'' hs'

theorem foldMembers_follows {member : σ → String → Reader σ} {member' : τ → String → Reader τ}
    (hagree : ∀ s t key cs, Agree s t → Follows Agree Alien (member s key cs) (member' t key cs))
    (halien : ∀ s key cs, Alien s → Yields (fun s' _ => Alien s') (member s key cs)) (bound : Nat)
    (first : Bool) {s : σ} {t : τ} (cs : List Char) (h : Agree s t) :
    Follows Agree Alien (foldMembers member bound first s cs)
      (foldMembers member' bound first t cs) := by
  induction bound generalizing first s t cs with
  | zero => exact .failed _ _
  | succ bound ih =>
      refine .skip fun more rest => ?_
      cases more with
      | false => exact .accepted h
      | true =>
          refine .skip fun key rest' => ?_
          exact (hagree s t key rest' h).bind (fun s' t' rest'' _ hs' => ih false rest'' hs')
            fun s' rest'' hs' => foldMembers_yields halien bound false rest'' hs'

theorem foldElements_yields {element : σ → Reader σ} {P : σ → Prop}
    (helement : ∀ s cs, P s → Yields (fun s' _ => P s') (element s cs)) (bound : Nat) (first : Bool)
    {s : σ} (cs : List Char) (h : P s) :
    Yields (fun s' _ => P s') (foldElements element bound first s cs) := by
  induction bound generalizing first s cs with
  | zero => exact .error _
  | succ bound ih =>
      refine .after fun more rest => .ite ?_ (.after fun _ _ => .ok h)
      exact (helement s rest h).bind fun s' rest' hs' => ih false rest' hs'

theorem foldElements_follows {element : σ → Reader σ} {element' : τ → Reader τ}
    (hagree : ∀ s t cs, Agree s t → Follows Agree (fun _ => False) (element s cs) (element' t cs))
    (bound : Nat) (first : Bool) {s : σ} {t : τ} (cs : List Char) (h : Agree s t) :
    Follows Agree (fun _ => False) (foldElements element bound first s cs)
      (foldElements element' bound first t cs) := by
  induction bound generalizing first s t cs with
  | zero => exact .failed _ _
  | succ bound ih =>
      refine .skip fun more rest => ?_
      cases more with
      | false => exact .skip fun _ _ => .accepted h
      | true =>
          exact (hagree s t rest h).bind (fun s' t' rest' _ hs' => ih false rest' hs')
            fun _ _ => False.elim

/-- A reader that looks at the first character and will have none of it. -/
theorem follows_of_refuse {Agree : Json → β → Prop} {Alien : Json → Prop}
    {y : Except ReadError (β × List Char)}
    (hy : y = .error (if skipBlanks cs = [] then .unfinished else refuse (skipBlanks cs)))
    (halien : Yields (fun j _ => Alien j) (readValue room cs)) :
    Follows Agree Alien (readValue room cs) y := by
  rw [hy]
  cases hread : readValue room cs with
  | error e => exact .failed e _
  | ok read =>
      have hsome : skipBlanks cs ≠ [] := by
        intro hnone
        rw [readValue.eq_def, hnone] at hread
        cases hread
      rw [if_neg hsome, refuse_of_ok hread]
      exact .refused (halien _ _ hread)

end Json

/-! ## The reader of events -/

namespace Event

/-- The kind of event that a value names as a tag. -/
def tagOf? : Json → Option Kind
  | .string tag => Kind.ofEventTag? tag
  | _ => none

/-- The kinds that the members called `type` name. -/
def typeTags (ms : List (String × Json)) : List (Option Kind) :=
  (ms.filter (·.1 == "type")).map fun m => tagOf? m.2

theorem ofJson?_object (ms : List (String × Json)) :
    ofJson? (.object ms) =
      (only? ms "type").bind fun v => (tagOf? v).bind fun kind => ofMembers? kind ms := by
  rw [ofJson?]
  cases only? ms "type" with
  | none => rfl
  | some v => cases v <;> rfl

theorem ofJson?_tagged {ms : List (String × Json)} {kind : Kind} (h : typeTags ms = [some kind]) :
    ofJson? (.object ms) = ofMembers? kind ms := by
  obtain ⟨m, hfound, hkind⟩ := List.map_eq_singleton_iff.mp h
  rw [ofJson?_object, only?, hfound]
  simp [hkind]

theorem ofJson?_untagged {ms : List (String × Json)} (h : ∀ kind, typeTags ms ≠ [some kind]) :
    ofJson? (.object ms) = none := by
  rw [ofJson?_object, only?]
  split
  next m hfound =>
    cases hkind : tagOf? m.2 with
    | none => simp [hkind]
    | some kind => exact absurd (by simp [typeTags, hfound, hkind]) (h kind)
  next => rfl

theorem ofJson?_array_cons (j : Json) (vs : List Json) :
    ofJson? (.array (j :: vs)) = (tagOf? j).bind fun kind => ofValues? kind vs := by
  cases j <;> rfl

/-- The tag is no field. -/
theorem ofMembers?_filter (kind : Kind) (ms : List (String × Json)) :
    ofMembers? kind (ms.filter (·.1 != "type")) = ofMembers? kind ms := by
  have honly : ∀ key ∈ kind.fields, only? (ms.filter (·.1 != "type")) key = only? ms key := by
    intro key hkey
    have hne : key ≠ "type" := by
      rintro rfl
      exact kind.type_notMem_fields hkey
    unfold only?
    rw [List.filter_filter]
    have hsame : (fun m : String × Json => m.1 == key && m.1 != "type") = fun m => m.1 == key := by
      funext m
      by_cases heq : m.1 = key <;> simp [heq, hne]
    rw [hsame]
  have hvalues : kind.fields.mapM (only? (ms.filter (·.1 != "type"))) =
      kind.fields.mapM (only? ms) := by
    revert honly
    generalize kind.fields = keys
    intro honly
    induction keys with
    | nil => rfl
    | cons key keys ih =>
        obtain ⟨hkey, hkeys⟩ := List.forall_mem_cons.mp honly
        rw [List.mapM_cons, List.mapM_cons, hkey, ih hkeys]
  unfold ofMembers?
  rw [hvalues]

theorem readTag_follows (room : Nat) (cs : List Char) :
    Follows (fun j kind => tagOf? j = some kind) (fun j => tagOf? j = none) (readValue room cs)
      (readTag cs) := by
  by_cases hquote : ∃ rest, skipBlanks cs = '"' :: rest
  · obtain ⟨rest, heq⟩ := hquote
    have htext : readText cs = readString rest := by
      unfold readText
      rw [heq]
      rfl
    rw [readValue_string heq, readTag, htext]
    apply Follows.skip
    intro tag rest'
    simp only
    cases hkind : Kind.ofEventTag? tag with
    | none => exact .refused (a := Json.string tag) hkind
    | some kind => exact .accepted (a := Json.string tag) hkind
  · apply follows_of_refuse
    · unfold readTag readText
      split
      next heq =>
        rw [if_pos heq]
        rfl
      next rest heq => exact absurd ⟨rest, heq⟩ hquote
      next hsome _ =>
        rw [if_neg hsome]
        rfl
    · intro j rest hread
      cases j with
      | string s => exact absurd (quote_of_readValue hread) hquote
      | _ => rfl

/-- What the reader of events keeps of the members that have been read. -/
structure Keeps (ms : List (String × Json)) (s : Option Kind × List (String × Json)) : Prop where
  tags : typeTags ms = s.1.toList.map some
  others : s.2 = ms.filter (·.1 != "type")

/-- The members spell no event, whatever follows them. -/
def Unspellable (ms : List (String × Json)) : Prop := 2 ≤ (typeTags ms).length ∨ none ∈ typeTags ms

theorem typeTags_cons_type (v : Json) (ms : List (String × Json)) :
    typeTags (("type", v) :: ms) = tagOf? v :: typeTags ms := by
  simp [typeTags]

theorem typeTags_cons_other {key : String} (hkey : key ≠ "type") (v : Json)
    (ms : List (String × Json)) : typeTags ((key, v) :: ms) = typeTags ms := by
  simp [typeTags, hkey]

theorem typeTags_reverse (ms : List (String × Json)) :
    typeTags ms.reverse = (typeTags ms).reverse := by
  simp [typeTags, List.filter_reverse]

theorem Unspellable.cons {ms : List (String × Json)} (h : Unspellable ms) (m : String × Json) :
    Unspellable (m :: ms) := by
  obtain ⟨key, v⟩ := m
  by_cases hkey : key = "type"
  · subst hkey
    unfold Unspellable
    rw [typeTags_cons_type]
    rcases h with hmany | hnone
    · left
      exact Nat.le_succ_of_le hmany
    · right
      exact List.mem_cons_of_mem _ hnone
  · unfold Unspellable
    rw [typeTags_cons_other hkey]
    exact h

theorem Unspellable.untagged {ms : List (String × Json)} (h : Unspellable ms) (kind : Kind) :
    typeTags ms.reverse ≠ [some kind] := by
  intro htags
  rw [typeTags_reverse, List.reverse_eq_iff] at htags
  rcases h with hmany | hnone
  · rw [htags] at hmany
    exact absurd hmany (by simp)
  · rw [htags] at hnone
    exact absurd hnone (by simp)

theorem pushMember_unspellable (room : Nat) {ms : List (String × Json)} (key : String)
    (cs : List Char) (h : Unspellable ms) :
    Yields (fun ms' _ => Unspellable ms') (pushMember room ms key cs) :=
  .after fun _ _ => .after fun v _ => .ok (h.cons (key, v))

theorem readMember_follows (room : Nat) {ms : List (String × Json)}
    {s : Option Kind × List (String × Json)} (key : String) (cs : List Char) (h : Keeps ms s) :
    Follows Keeps Unspellable (pushMember room ms key cs) (readMember room s key cs) := by
  obtain ⟨found, others⟩ := s
  unfold readMember
  by_cases hkey : key = "type"
  · subst hkey
    rw [if_pos rfl]
    cases found with
    | some kind =>
        -- a second tag
        apply Follows.of_alien
        refine .after fun _ _ => .after fun v _ => .ok (.inl ?_)
        rw [typeTags_cons_type, h.tags]
        simp
    | none =>
        apply Follows.skip
        intro _ rest
        apply (readTag_follows room rest).bind
        · intro v kind rest' _ hkind
          apply Follows.accepted
          constructor
          · rw [typeTags_cons_type, h.tags, hkind]
            rfl
          · simpa using h.others
        · intro v rest' hkind
          refine .ok (.inr ?_)
          rw [typeTags_cons_type, hkind]
          exact List.mem_cons_self
  · rw [if_neg hkey]
    refine .skip fun _ rest => .skip fun v rest' => .accepted ⟨?_, ?_⟩
    · rw [typeTags_cons_other hkey]
      exact h.tags
    · have hothers : others = ms.filter (·.1 != "type") := h.others
      simp [hkey, hothers]

theorem accept_follows {j : Json} {found : Option Event} (h : ofJson? j = found)
    (rest : List Char) :
    Follows (fun j e => ofJson? j = some e) (fun j => ofJson? j = none) (.ok (j, rest))
      (accept found rest) := by
  cases found with
  | none => exact .refused h
  | some e => exact .accepted h

theorem read_object_follows (h : skipBlanks cs = '\x7b' :: rest) :
    Follows (fun j e => ofJson? j = some e) (fun j => ofJson? j = none) (readValue (room + 1) cs)
      (read (room + 1) cs) := by
  rw [readValue_object h, read, h]
  have hstart : Keeps [] (none, []) := ⟨rfl, rfl⟩
  apply (foldMembers_follows (fun ms s key cs => readMember_follows room key cs)
    (fun ms key cs => pushMember_unspellable room key cs) (rest.length + 1) true rest hstart).bind
  · rintro ms ⟨found, others⟩ rest' - hkeeps
    cases found with
    | none =>
        apply Follows.of_alien
        refine .after fun _ _ => .ok (ofJson?_untagged fun kind => ?_)
        rw [typeTags_reverse, hkeeps.tags]
        simp
    | some kind =>
        refine .skip fun _ rest'' => accept_follows ?_ rest''
        have htags : typeTags ms.reverse = [some kind] := by
          rw [typeTags_reverse, hkeeps.tags]
          rfl
        have hothers : others = ms.filter (·.1 != "type") := hkeeps.others
        rw [ofJson?_tagged htags, ← ofMembers?_filter kind ms.reverse, List.filter_reverse, hothers]
  · intro ms rest' hunspellable
    exact .after fun _ _ => .ok (ofJson?_untagged hunspellable.untagged)

/-- The elements behind the tag are read alike, and the bounds of the two loops do not matter. -/
theorem foldElements_tail_follows {e : Json} {bound : Nat} (hbound : cs.length < bound) :
    Follows (fun es vs => es = vs ++ [e]) (fun _ => False)
      (foldElements (pushElement room) bound false [e] cs)
      (foldElements (readElement room) (cs.length + 1) false [] cs) := by
  have helement : ∀ es cs, Leaves (cs.length + 1) (pushElement room es cs) := fun es cs =>
    (readValue_leaves room cs).bind fun _ _ hrest => .ok (Nat.lt_succ_of_lt hrest)
  rw [foldElements_bound helement [e] hbound (Nat.lt_succ_self _)]
  apply foldElements_follows
  · intro es vs cs hes
    refine .skip fun v rest => .accepted ?_
    rw [hes, List.cons_append]
  · rfl

theorem readValue_array_first {rest₁ : List Char} (h : skipBlanks cs = '[' :: rest)
    (hmore : moreElements true rest = .ok (true, rest₁)) :
    readValue (room + 1) cs = (do
      let (e, rest₂) ← readValue room rest₁
      let (es, rest₃) ← foldElements (pushElement room) rest.length false [e] rest₂
      .ok (.array es.reverse, rest₃)) := by
  rw [readValue_array h, foldElements, hmore]
  simp only [pushElement, bind, Except.bind, if_true]
  cases readValue room rest₁ <;> rfl

theorem read_array_first {rest₁ : List Char} (h : skipBlanks cs = '[' :: rest)
    (hmore : moreElements true rest = .ok (true, rest₁)) :
    read (room + 1) cs = (do
      let (kind, rest₂) ← readTag rest₁
      let (vs, rest₃) ← foldElements (readElement room) (rest₂.length + 1) false [] rest₂
      accept (ofValues? kind vs.reverse) rest₃) := by
  rw [read, h]
  simp only [hmore]
  rfl

theorem read_array_follows (h : skipBlanks cs = '[' :: rest) :
    Follows (fun j e => ofJson? j = some e) (fun j => ofJson? j = none) (readValue (room + 1) cs)
      (read (room + 1) cs) := by
  cases hmore : moreElements true rest with
  | error e =>
      rw [readValue_array h, foldElements, read, h]
      simp only [hmore]
      exact .failed e e
  | ok found =>
      obtain ⟨more, rest₁⟩ := found
      have hrest₁ := moreElements_leaves true rest more rest₁ hmore
      cases more with
      | false =>
          have hread : read (room + 1) cs = .error .mismatch := by
            rw [read, h]
            simp only [hmore]
            rfl
          rw [readValue_array h, foldElements, hmore, hread]
          apply Follows.of_alien
          refine Yields.bind (P := fun es _ => es = []) ?_ ?_
          · exact Yields.after (x := closeArray rest₁) fun _ _ => .ok rfl
          · rintro es rest₂ rfl
            exact .ok rfl
      | true =>
          rw [readValue_array_first h hmore, read_array_first h hmore]
          apply (readTag_follows room rest₁).bind
          · intro e kind rest₂ hvalue hkind
            have hrest₂ := readValue_leaves room rest₁ e rest₂ hvalue
            have hbound : rest₂.length < rest.length := by omega
            apply (foldElements_tail_follows hbound).bind
            · rintro es vs rest₃ - rfl
              refine accept_follows ?_ rest₃
              rw [List.reverse_append, List.reverse_singleton, List.singleton_append,
                ofJson?_array_cons, hkind, Option.bind_some]
            · exact fun _ _ => False.elim
          · intro e rest₂ hkind
            have hlast : Yields (fun es _ => ∃ vs, es = vs ++ [e])
                (foldElements (pushElement room) rest.length false [e] rest₂) := by
              refine foldElements_yields ?_ _ _ _ ⟨[], rfl⟩
              rintro es cs ⟨vs, rfl⟩
              exact .after fun v _ => .ok ⟨v :: vs, rfl⟩
            refine hlast.bind ?_
            rintro es rest₃ ⟨vs, rfl⟩
            apply Yields.ok
            rw [List.reverse_append, List.reverse_singleton, List.singleton_append,
              ofJson?_array_cons, hkind, Option.bind_none]

/-- The reader of events agrees with the reader of values on what is an event. -/
theorem read_follows (room : Nat) (cs : List Char) :
    Follows (fun j e => ofJson? j = some e) (fun j => ofJson? j = none) (readValue room cs)
      (read room cs) := by
  rcases plain_or_bracket cs with ⟨rest, heq⟩ | ⟨rest, heq⟩ | hplain
  · cases room with
    | zero =>
        rw [readValue.eq_def, read, heq]
        exact .failed _ _
    | succ room => exact read_array_follows heq
  · cases room with
    | zero =>
        rw [readValue.eq_def, read, heq]
        exact .failed _ _
    | succ room => exact read_object_follows heq
  · apply follows_of_refuse
    · unfold read
      split
      next heq => rw [if_pos heq]
      next rest heq => exact absurd heq (hplain.2 rest)
      next rest heq => exact absurd heq (hplain.1 rest)
      next hsome _ _ => rw [if_neg hsome]
    · intro j rest hread
      rw [readValue_plain hplain] at hread
      have hvalue := (readValue_zero_yields cs j rest hread).1
      cases j with
      | array es => exact absurd rfl (hvalue.array es)
      | object ms => exact absurd rfl (hvalue.object ms)
      | _ => rfl

end Event

/-- Both readers take the whole text, and nothing may follow for either. -/
theorem Json.readAll_follows {α β : Type} {Agree : α → β → Prop} {Alien : α → Prop}
    {value : Reader α} {value' : Reader β} {t : String}
    (h : Follows Agree Alien (value t.toList) (value' t.toList)) :
    (∀ a, readAll value t = .ok a → (∃ b, readAll value' t = .ok b ∧ Agree a b) ∨
      (readAll value' t = .error .mismatch ∧ Alien a)) ∧
    ∀ b, readAll value' t = .ok b → ∃ a, readAll value t = .ok a ∧ Agree a b := by
  unfold readAll
  generalize value t.toList = x at h
  generalize value' t.toList = y at h
  cases h with
  | @accepted a b rest hagree =>
      dsimp only [bind, Except.bind]
      split
      · constructor
        · rintro a' ⟨⟩
          exact .inl ⟨b, rfl, hagree⟩
        · rintro b' ⟨⟩
          exact ⟨a, rfl, hagree⟩
      · constructor <;> rintro _ ⟨⟩
  | @refused a rest halien =>
      dsimp only [bind, Except.bind]
      constructor
      · intro a' hok
        split at hok
        · cases hok
          exact .inr ⟨rfl, halien⟩
        · cases hok
      · rintro b ⟨⟩
  | failed e e' => constructor <;> rintro _ ⟨⟩

end ChangeNotice
