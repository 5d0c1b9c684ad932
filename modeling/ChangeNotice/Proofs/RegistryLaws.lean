import ChangeNotice.Registry
import Mathlib.Data.List.Basic
import Mathlib.Data.List.Nodup

/-! # Tickets of a registry

Keys and tickets of the entries are distinct and no ticket is issued twice. An
entry that a snapshot remembers therefore either stands in the registry or has
left it for good, whoever has been registered since.
-/

namespace ChangeNotice

namespace Registry

structure Sound (r : Registry) : Prop where
  keys : (r.entries.map (·.key)).Nodup
  tickets : (r.entries.map (·.ticket)).Nodup
  issued : ∀ e ∈ r.entries, e.ticket < r.issued

/-- What a snapshot may assume of an entry it remembers, given whether the observer has been removed
since and whether it is alive. An entry that was not removed has left only if its observer died. -/
structure Remembers (r : Registry) (e : Entry) (removed alive : Prop) : Prop where
  issued : e.ticket < r.issued
  gone : removed → r.isCurrent e = false
  stands : ¬ removed → e ∈ r.entries ∨ (r.isCurrent e = false ∧ ¬ alive)

variable {r : Registry} {e : Entry} {alive : Name → Bool} {key : Name}

theorem isCurrent_eq_false_iff :
    r.isCurrent e = false ↔ ∀ e' ∈ r.entries, e'.ticket ≠ e.ticket := by
  simp [isCurrent]

theorem isCurrent_of_mem (h : e ∈ r.entries) : r.isCurrent e = true := by
  simp only [isCurrent, List.any_eq_true]
  exact ⟨e, h, by simp⟩

theorem hasKey_iff : r.hasKey key = true ↔ ∃ e ∈ r.entries, e.key = key := by
  simp [hasKey]

theorem keys_prune : ((r.prune alive).entries.map (·.key)) = r.keys alive := by
  simp [prune, keys, List.filter_map, Function.comp_def]

theorem keys_remove : (r.remove key).entries.map (·.key) = (r.entries.map (·.key)).erase key := by
  have hcomm : (fun e : Entry => e.key == key) = (fun x => key == x) ∘ (·.key) :=
    funext fun e => Bool.beq_comm
  rw [List.erase_eq_eraseP, List.eraseP_map, ← hcomm]
  rfl

theorem insert_eq (r : Registry) (alive : Name → Bool) (key : Name) :
    r.insert alive key =
      if (r.prune alive).hasKey key then r.prune alive
      else ⟨(r.prune alive).entries ++ [⟨key, r.issued⟩], r.issued + 1⟩ := rfl

namespace Sound

theorem empty : Registry.empty.Sound := ⟨List.nodup_nil, List.nodup_nil, by simp [Registry.empty]⟩

/-- Fewer entries are no less sound. -/
theorem of_sublist (h : r.Sound) {entries : List Entry} (hsub : entries.Sublist r.entries) :
    Sound { r with entries } where
  keys := h.keys.sublist (hsub.map _)
  tickets := h.tickets.sublist (hsub.map _)
  issued e he := h.issued e (hsub.subset he)

theorem prune (h : r.Sound) (alive : Name → Bool) : (r.prune alive).Sound :=
  h.of_sublist List.filter_sublist

theorem remove (h : r.Sound) (key : Name) : (r.remove key).Sound :=
  h.of_sublist List.eraseP_sublist

theorem append (h : r.Sound) (hkey : r.hasKey key = false) :
    Sound ⟨r.entries ++ [⟨key, r.issued⟩], r.issued + 1⟩ where
  keys := by
    rw [List.map_append, List.nodup_append]
    refine ⟨h.keys, List.nodup_singleton _, ?_⟩
    intro k hk k' hk' heq
    obtain ⟨e, he, rfl⟩ := List.mem_map.mp hk
    simp only [List.map_cons, List.map_nil, List.mem_singleton] at hk'
    have hhas : r.hasKey key = true := hasKey_iff.mpr ⟨e, he, heq.trans hk'⟩
    rw [hkey] at hhas
    exact absurd hhas (by decide)
  tickets := by
    rw [List.map_append, List.nodup_append]
    refine ⟨h.tickets, List.nodup_singleton _, ?_⟩
    intro n hn n' hn' heq
    obtain ⟨e, he, rfl⟩ := List.mem_map.mp hn
    simp only [List.map_cons, List.map_nil, List.mem_singleton] at hn'
    have hlt := h.issued e he
    omega
  issued := by
    intro e he
    rcases List.mem_append.mp he with hold | hnew
    · exact Nat.lt_succ_of_lt (h.issued e hold)
    · rw [List.mem_singleton] at hnew
      subst hnew
      exact Nat.lt_succ_self _

theorem insert (h : r.Sound) (alive : Name → Bool) (key : Name) : (r.insert alive key).Sound := by
  rw [insert_eq]
  split
  next => exact h.prune alive
  next hnew => exact (h.prune alive).append (Bool.not_eq_true _ ▸ hnew)

/-- In a sound registry a ticket belongs to one entry. -/
theorem eq_of_ticket (h : r.Sound) {e' : Entry} (he : e ∈ r.entries) (he' : e' ∈ r.entries)
    (heq : e'.ticket = e.ticket) : e' = e :=
  List.inj_on_of_nodup_map h.tickets he' he heq

theorem eq_of_key (h : r.Sound) {e' : Entry} (he : e ∈ r.entries) (he' : e' ∈ r.entries)
    (heq : e'.key = e.key) : e' = e :=
  List.inj_on_of_nodup_map h.keys he' he heq

theorem mem_remove_iff (h : r.Sound) {e' : Entry} :
    e' ∈ (r.remove key).entries ↔ e' ∈ r.entries ∧ e'.key ≠ key := by
  constructor
  · intro he'
    have hmem : e' ∈ r.entries := List.mem_of_mem_eraseP he'
    refine ⟨hmem, ?_⟩
    intro heq
    -- The one entry with this key is the one that was taken out.
    obtain ⟨a, l₁, l₂, -, hkey, hsplit, herased⟩ :=
      List.exists_of_eraseP (p := (·.key == key)) hmem (by simpa using heq)
    have ha : a = e' := h.eq_of_key hmem (by simp [hsplit]) (by simpa [heq] using hkey)
    subst ha
    have hnodup := h.keys.of_map
    rw [hsplit] at hnodup
    simp only [Registry.remove, herased] at he'
    exact (List.nodup_middle.mp hnodup).notMem he'
  · rintro ⟨hmem, hne⟩
    exact (List.mem_eraseP_of_neg (by simpa using hne)).mpr hmem

end Sound

namespace Remembers

variable {removed : Prop} {living : Prop}

/-- A registry remembers its own entries. -/
theorem of_mem (h : r.Sound) (he : e ∈ r.entries) (hremoved : ¬ removed) :
    r.Remembers e removed living where
  issued := h.issued e he
  gone hr := absurd hr hremoved
  stands _ := .inl he

/-- An observer that dies in between takes nothing away. -/
theorem mono (h : r.Remembers e removed living) {living' : Prop} (hdead : living' → living) :
    r.Remembers e removed living' where
  issued := h.issued
  gone := h.gone
  stands hr := (h.stands hr).imp_right fun hgone => ⟨hgone.1, fun hl => hgone.2 (hdead hl)⟩

theorem prune (h : r.Remembers e removed (alive e.key)) (hsound : r.Sound) :
    (r.prune alive).Remembers e removed (alive e.key) where
  issued := h.issued
  gone hr := by
    rw [isCurrent_eq_false_iff]
    intro e' he'
    exact isCurrent_eq_false_iff.mp (h.gone hr) e' (List.mem_of_mem_filter he')
  stands hr := by
    rcases h.stands hr with hmem | ⟨hgone, hdead⟩
    · by_cases hlive : alive e.key = true
      · exact .inl (List.mem_filter.mpr ⟨hmem, hlive⟩)
      · refine .inr ⟨?_, hlive⟩
        rw [isCurrent_eq_false_iff]
        intro e' he' heq
        obtain ⟨hmem', hlive'⟩ := List.mem_filter.mp he'
        rw [hsound.eq_of_ticket hmem hmem' heq] at hlive'
        exact hlive hlive'
    · refine .inr ⟨?_, hdead⟩
      rw [isCurrent_eq_false_iff] at hgone ⊢
      exact fun e' he' => hgone e' (List.mem_of_mem_filter he')

/-- A new entry has a new ticket, so it is never taken for the old one. -/
theorem append (h : r.Remembers e removed living) (key : Name) :
    Remembers ⟨r.entries ++ [⟨key, r.issued⟩], r.issued + 1⟩ e removed living := by
  have hfresh : ∀ {entries : List Entry}, (∀ e' ∈ entries, e'.ticket ≠ e.ticket) →
      ∀ e' ∈ entries ++ [⟨key, r.issued⟩], e'.ticket ≠ e.ticket := by
    intro entries hold e' he'
    rcases List.mem_append.mp he' with hmem | hnew
    · exact hold e' hmem
    · rw [List.mem_singleton] at hnew
      subst hnew
      exact fun heq => absurd h.issued (by simp only at heq; omega)
  refine ⟨Nat.lt_succ_of_lt h.issued, fun hr => ?_, fun hr => ?_⟩
  · exact isCurrent_eq_false_iff.mpr (hfresh (isCurrent_eq_false_iff.mp (h.gone hr)))
  · rcases h.stands hr with hmem | ⟨hgone, hdead⟩
    · exact .inl (List.mem_append_left _ hmem)
    · exact .inr ⟨isCurrent_eq_false_iff.mpr (hfresh (isCurrent_eq_false_iff.mp hgone)), hdead⟩

theorem insert (h : r.Remembers e removed (alive e.key)) (hsound : r.Sound) (key : Name) :
    (r.insert alive key).Remembers e removed (alive e.key) := by
  rw [insert_eq]
  split
  · exact h.prune hsound
  · exact (h.prune hsound).append key

theorem remove (h : r.Remembers e removed living) (hsound : r.Sound) (key : Name) :
    (r.remove key).Remembers e (removed ∨ key = e.key) living where
  issued := h.issued
  gone hr := by
    rw [isCurrent_eq_false_iff]
    intro e' he' heq
    obtain ⟨hmem', hkey'⟩ := hsound.mem_remove_iff.mp he'
    by_cases hold : removed
    · exact isCurrent_eq_false_iff.mp (h.gone hold) e' hmem' heq
    · rcases h.stands hold with hmem | ⟨hgone, -⟩
      · rw [hsound.eq_of_ticket hmem hmem' heq] at hkey'
        exact hkey' (hr.resolve_left hold).symm
      · exact isCurrent_eq_false_iff.mp hgone e' hmem' heq
  stands hr := by
    rw [not_or] at hr
    rcases h.stands hr.1 with hmem | ⟨hgone, hdead⟩
    · exact .inl (hsound.mem_remove_iff.mpr ⟨hmem, fun heq => hr.2 heq.symm⟩)
    · refine .inr ⟨?_, hdead⟩
      rw [isCurrent_eq_false_iff] at hgone ⊢
      exact fun e' he' => hgone e' (hsound.mem_remove_iff.mp he').1

/-- The slot of a live observer is invoked unless a removal is honoured. -/
theorem resolve_live_iff (h : r.Remembers e removed (alive e.key)) (honour : Bool) :
    r.resolve alive honour e = .live ↔ alive e.key = true ∧ (honour = false ∨ ¬ removed) := by
  by_cases hlive : alive e.key = true
  · have hcurrent : r.isCurrent e = true ↔ ¬ removed := by
      constructor
      · intro hcur hr
        rw [h.gone hr] at hcur
        exact absurd hcur (by decide)
      · intro hr
        rcases h.stands hr with hmem | ⟨-, hdead⟩
        · exact isCurrent_of_mem hmem
        · exact absurd hlive hdead
    rw [← hcurrent]
    cases honour <;> cases hcur : r.isCurrent e <;> simp [resolve, hlive, hcur]
  · have hdead : alive e.key = false := by simpa using hlive
    simp only [resolve, hdead]
    split <;> simp

end Remembers

end Registry

end ChangeNotice
