import ChangeNotice.Proofs.RoundTrip
import ChangeNotice.Proofs.StreamAccount

/-! # Streams are exported without loss

A stream is exported as text, one line for each event that waits. No written value holds a
newline, so the newlines of the text are exactly the ends of its lines, and reading the
lines gives back what the stream would have handed out.
-/

namespace ChangeNotice

/-- What stands between the newlines of a text, before the first one and behind the last. -/
def Text.cut (text : String) : List String := (text.toList.splitOn '\n').map String.ofList

/-! ## Written values hold no newline -/

namespace Json

theorem newline_ne_hexDigit (n : Nat) : '\n' ≠ hexDigit n := by
  have hdigits : ∀ k : Fin 16, '\n' ≠ Nat.digitChar k := by decide
  exact hdigits ⟨n % 16, Nat.mod_lt n (by decide)⟩

/-- A newline is escaped, and no other escape brings one in. -/
theorem newline_notMem_escape (c : Char) : '\n' ∉ escape c := by
  unfold escape
  split_ifs with hquote hslash hnewline hreturn htab hback hfeed hcontrol
  iterate 7 · decide
  · simp [newline_ne_hexDigit]
  · intro hmem
    exact hnewline (List.mem_singleton.mp hmem).symm

theorem newline_notMem_quoted (s : String) : '\n' ∉ quoted s := by
  unfold quoted
  simp only [List.cons_append, List.mem_cons, List.mem_append, List.mem_flatMap, not_or, not_exists,
    not_and]
  exact ⟨by decide, fun c _ => newline_notMem_escape c, by decide, List.not_mem_nil⟩

theorem newline_notMem_toDigits (n : Nat) : '\n' ∉ Nat.toDigits 10 n := by
  intro hmem
  have hdigit : '\n'.isDigit = true := Nat.isDigit_of_mem_toDigits (by decide) (by decide) hmem
  exact absurd hdigit (by decide)

theorem newline_notMem_separator (first : Bool) : '\n' ∉ separator first := by
  cases first <;> decide

theorem newline_notMem_elementChars {es : List Json} (hes : ∀ e ∈ es, '\n' ∉ e.chars)
    (first : Bool) : '\n' ∉ elementChars first es := by
  induction es generalizing first with
  | nil => exact List.not_mem_nil
  | cons e es ih =>
      obtain ⟨hfirst, hrest⟩ := List.forall_mem_cons.mp hes
      rw [elementChars, List.mem_append, List.mem_append, not_or, not_or]
      exact ⟨⟨newline_notMem_separator first, hfirst⟩, ih hrest false⟩

theorem newline_notMem_memberChars {ms : List (String × Json)}
    (hms : ∀ m ∈ ms, '\n' ∉ m.2.chars) (first : Bool) : '\n' ∉ memberChars first ms := by
  induction ms generalizing first with
  | nil => exact List.not_mem_nil
  | cons m ms ih =>
      obtain ⟨hvalue, hrest⟩ := List.forall_mem_cons.mp hms
      intro hmem
      rw [memberChars, List.mem_append, List.mem_append, List.mem_append] at hmem
      rcases hmem with ((hmem | hmem) | hmem) | hmem
      · exact newline_notMem_separator first hmem
      · exact newline_notMem_quoted m.1 hmem
      · rcases List.mem_cons.mp hmem with hcolon | hmem
        · exact absurd hcolon (by decide)
        · exact hvalue hmem
      · exact ih hrest false hmem

theorem Fits.newline_notMem_chars {room : Nat} {j : Json} (h : Fits room j) : '\n' ∉ j.chars := by
  induction h with
  | null => decide
  | bool b => cases b <;> decide
  | natural n => exact newline_notMem_toDigits n.toNat
  | string s => exact newline_notMem_quoted s
  | array hes ih =>
      have hinner := newline_notMem_elementChars ih true
      simpa [chars] using hinner
  | object hms ih =>
      have hinner := newline_notMem_memberChars ih true
      simpa [chars] using hinner

end Json

theorem Event.fits {room : Nat} (e : Event) : Json.Fits (room + 2) e.toJson := by
  apply Json.Fits.object
  intro m hm
  rcases List.mem_cons.mp hm with rfl | hm
  · exact .string _
  · exact e.fits_values m.2 (List.of_mem_zip hm).2

namespace Recorded

theorem fits {room : Nat} (r : Recorded) : Json.Fits (room + 3) r.toJson := by
  apply Json.Fits.object
  intro m hm
  simp only [List.mem_cons, List.not_mem_nil, or_false] at hm
  rcases hm with rfl | rfl | rfl
  · exact .natural _
  · exact .natural _
  · exact r.event.fits

theorem newline_notMem_text (r : Recorded) : '\n' ∉ r.text.toList := by
  have hfits : Json.Fits 3 r.toJson := r.fits
  rw [text, Json.text, String.toList_ofList]
  exact hfits.newline_notMem_chars

theorem ofText_text (r : Recorded) : ofText r.text = .ok r :=
  Json.readAll_text fun _ _ => r.read_chars

/-- The text with one line for each record is cut into these lines again; nothing stands behind the
last one. -/
theorem cut_join_text (rs : List Recorded) :
    Text.cut (String.join (rs.map fun r => r.text ++ "\n")) = rs.map text ++ [""] := by
  induction rs with
  | nil => rfl
  | cons r rs ih =>
      have hline : ∀ rest : String,
          (r.text ++ "\n" ++ rest).toList = r.text.toList ++ '\n' :: rest.toList := by
        simp
      rw [List.map_cons, String.join_cons, Text.cut, hline,
        List.splitOn_append_cons_self_of_not_mem r.newline_notMem_text, List.map_cons,
        String.ofList_toList, List.map_cons, List.cons_append, ← ih, Text.cut]

end Recorded

/-! ## The export of a stream -/

/-- A stream that somebody can read, whatever waits in it and whatever else there is in the world.
It can be exported, which empties it as draining it would. Cut at its newlines the text has one line
for each event that waited, in order, and behind the last line nothing. Read as records, the lines
are what draining the stream would have handed out. -/
theorem Scenario.export_lossless {w : World} {sink : Name} {s : Sink}
    (hsink : (w.observer sink).sink? = some s) (hconnected : s.connected = true)
    (handle : Handlers) (c : Context) :
    ∃ (text : String) (lines : List String) (events : List Recorded) (after : World),
      perform handle c (.jsonLines sink) w = (.ok (.text text), after) ∧
      perform handle c (.drain sink) w = (.ok (.drained events), after) ∧
      (after.observer sink).sink? = some { s with buffer := [] } ∧
      Text.cut text = lines ++ [""] ∧
      text = String.join (lines.map (· ++ "\n")) ∧
      (∀ line ∈ lines, '\n' ∉ line.toList) ∧
      lines.length = s.buffer.length ∧
      lines.map Recorded.ofText = events.map .ok ∧ events = s.buffer := by
  have hstream := onStream_of_sink? hsink hconnected
  have hdrained : ((w.readStream sink s.drain.2 s.drain.1).observer sink).sink? =
      some { s with buffer := [] } := by
    rw [World.readStream, World.observer_record, World.sink?_updateSink, if_pos rfl, hsink]
    rfl
  refine ⟨s.jsonLines, s.buffer.map Recorded.text, s.buffer,
    w.readStream sink s.drain.2 s.drain.1, ?_, ?_, hdrained, ?_, ?_, ?_, ?_, ?_, rfl⟩
  · rw [perform, hstream]
    rfl
  · rw [perform, hstream]
    rfl
  · exact Recorded.cut_join_text s.buffer
  · rw [Sink.jsonLines, List.map_map]
    rfl
  · intro line hline
    obtain ⟨r, -, rfl⟩ := List.mem_map.mp hline
    exact r.newline_notMem_text
  · exact List.length_map _
  · rw [List.map_map]
    apply List.map_congr_left
    intro r _
    exact r.ofText_text

/-- A sink that keeps two of the three events raised. -/
def exporting : World :=
  (Session.runFrom 3 none .empty
    [.perform none (.createDocument "d" {}),
      .perform none (.createSink "k" { bufferSize := 2 } (some (some "d"))),
      .perform none (.raise (some "d") (.beginUpdate ⟨0xffffffff⟩)),
      .perform none (.raise (some "d") (.styleRuleAdded ⟨⟨0xffffffffffffffff⟩, true⟩)),
      .perform none (.raise (some "d") .beginLoad)]).2

/-- The sink as it is then. -/
def exportingSink : Sink :=
  ⟨.all, 2, [⟨⟨1⟩, 0, .beginUpdate ⟨0xffffffff⟩⟩,
    ⟨⟨1⟩, 1, .styleRuleAdded ⟨⟨0xffffffffffffffff⟩, true⟩⟩], true, 3, 1, true⟩

/-- The two lines are read back as the two events. -/
theorem export_lossless_exporting :
    (exporting.observer "k").sink? = some exportingSink ∧ exportingSink.connected = true ∧
    ∃ (text : String) (lines : List String) (after : World),
      Scenario.perform (Scenario.respond 3) .top (.jsonLines "k") exporting =
        (.ok (.text text), after) ∧
      Text.cut text = lines ++ [""] ∧ lines.length = 2 ∧
      lines.map Recorded.ofText = exportingSink.buffer.map .ok := by
  have hsink : (exporting.observer "k").sink? = some exportingSink := by decide +kernel
  obtain ⟨text, lines, events, after, hexport, -, -, hcut, -, -, hlength, hread, hevents⟩ :=
    Scenario.export_lossless hsink rfl (Scenario.respond 3) .top
  rw [hevents] at hread
  exact ⟨hsink, rfl, text, lines, after, hexport, hcut, hlength, hread⟩

end ChangeNotice
