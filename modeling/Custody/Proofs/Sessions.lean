import Mathlib.Data.List.Infix
import Custody.Proofs.Streams
import Custody.Session

/-!
# Sessions and the text that was entered

Lines that are entered one by one are verified as the text of the buffer is as a whole, spans and
all.  Whatever happens in a session, the buffer is empty or ends with a line break, and the line
counter is the number of its lines, unless an empty file was loaded into an empty buffer.
-/

namespace Custody

theorem Path.components_eq (path : String) :
    components path = ((path.toList.splitOnP (· = '/')).map String.ofList).filter fun component =>
      component ≠ "" && component ≠ "." := by
  rw [components, String.toList_split_prop]

theorem Verification.run_append (verification : Verification) (nodes more : List Node) :
    verification.run (nodes ++ more) = (verification.run nodes).run more :=
  List.foldl_append

/-- A run adds its operations to those that were verified before. -/
theorem Verification.nodes_run_drop (verification : Verification) (nodes : List Node) :
    ((verification.run nodes).nodes.drop verification.nodes.length).map (·.node) = nodes := by
  have added : ∃ more : List AnnotatedNode,
      (verification.run nodes).nodes = verification.nodes ++ more ∧ more.map (·.node) = nodes := by
    induction nodes using List.reverseRecOn with
    | nil => exact ⟨[], (List.append_nil _).symm, rfl⟩
    | append_singleton nodes node ih =>
      obtain ⟨more, split, same⟩ := ih
      let outcome := (verification.run nodes).state.perform node.operation node.span
      refine ⟨more ++ [⟨node, outcome.verdict⟩], ?_, by rw [List.map_append, same]; rfl⟩
      rw [run_append, ← List.append_assoc, ← split]
      rfl
  obtain ⟨more, split, same⟩ := added
  rw [split, List.drop_left, same]

namespace Session

/-- The place where the next text goes, if the line counter is right. -/
def place (session : Session) : Place :=
  ⟨session.lines + 1, 0, Text.Utf8.width session.buffer.toList⟩

/-- Read a text that is entered next. -/
def read (session : Session) (text : List Char) : Except (List SyntaxError) (List Node) :=
  (session.place.cursor text).parse session.settings.errorLimit

/-- The verification after a text was read. -/
def verified (session : Session) (text : List Char) : Verification :=
  match session.read text with
  | .error _ => session.verification
  | .ok nodes => session.verification.run nodes

theorem startingAt_eq (session : Session) (code : String) :
    Cursor.startingAt code (session.lines + 1) session.buffer.utf8ByteSize =
      session.place.cursor code.toList := by
  rw [Cursor.startingAt, ← Text.Utf8.width_toList]
  rfl

/-- Entering a line. -/
theorem eval_session (session : Session) (line : String) :
    (session.eval line).2 =
      { session with
        verification := session.verified (trimBreaks line.toList)
        buffer := session.buffer ++ String.ofList (trimBreaks line.toList) ++ "\n"
        lines := session.lines + 1 } := by
  unfold eval verified read
  dsimp only
  rw [startingAt_eq, String.toList_ofList]
  cases (session.place.cursor (trimBreaks line.toList)).parse session.settings.errorLimit <;> rfl

/-- Loading a text. -/
theorem loadFile_text {path : String} (format : StreamFormat.ofPath path = .text)
    (session : Session) (code : String) :
    (session.loadFile path (some code)).2 =
      match session.read code.toList with
      | .error _ => session
      | .ok nodes =>
        { session with
          verification := session.verification.run nodes
          buffer := closeLine (session.buffer ++ code)
          lines := session.lines + countLines code.toList } := by
  unfold loadFile load read Source.ofFile
  dsimp only
  rw [format]
  dsimp only
  rw [startingAt_eq]
  cases (session.place.cursor code.toList).parse session.settings.errorLimit <;> rfl

/-- Loading a document leaves the text as it is. -/
theorem loadFile_json {path : String} (format : StreamFormat.ofPath path = .json)
    (session : Session) (code : String) :
    (session.loadFile path (some code)).2.buffer = session.buffer ∧
      (session.loadFile path (some code)).2.lines = session.lines := by
  unfold loadFile load Source.ofFile
  dsimp only
  rw [format]
  dsimp only
  cases Source.parse _ session.settings.errorLimit <;> exact ⟨rfl, rfl⟩

/-! ## Lines entered one by one -/

theorem trimBreaks_eq {line : List Char} (along : '\n' ∉ line)
    (clean : line.getLast? ≠ some '\r') : trimBreaks line = line := by
  rw [trimBreaks, List.reverse_eq_iff]
  cases back : line.reverse with
  | nil => rfl
  | cons c rest =>
    have last : line.getLast? = some c := by rw [← List.head?_reverse, back]; rfl
    have other : c ≠ '\n' := by
      rintro rfl
      exact along (List.mem_of_getLast? last)
    have plain : c ≠ '\r' := by
      rintro rfl
      exact clean last
    exact List.dropWhile_cons_of_neg (by simp [other, plain])

theorem newLine_notMem_trimBreaks {line : List Char} (along : '\n' ∉ line) :
    '\n' ∉ trimBreaks line := by
  intro member
  rw [trimBreaks, List.mem_reverse] at member
  exact along (List.mem_reverse.mp (List.dropWhile_subset _ member))

/-- A session after lines were entered. -/
def enter (session : Session) (lines : List String) : Session :=
  lines.foldl (fun session line => (session.eval line).2) session

theorem enter_cons (session : Session) (line : String) (lines : List String) :
    session.enter (line :: lines) = (session.eval line).2.enter lines := by
  rw [enter, List.foldl_cons, enter]

/-- After a line was entered, the next text goes to the next line. -/
theorem place_eval {session : Session} {line : String} (along : '\n' ∉ line.toList)
    (clean : line.toList.getLast? ≠ some '\r') :
    (session.eval line).2.place = session.place.nextLine line.toList := by
  have none := List.count_eq_zero.mpr along
  rw [eval_session, trimBreaks_eq along clean]
  simp only [place, Place.nextLine, none, String.toList_append, String.toList_ofList,
    Text.Utf8.width_append, Nat.add_zero]
  rfl

/-- Lines that can be read on their own, entered in a session. -/
theorem enter_session {lines : List String}
    (unbroken : ∀ line ∈ lines, '\n' ∉ line.toList ∧ line.toList.getLast? ≠ some '\r')
    (readable : ∀ line ∈ lines, ∃ nodes, parse line 0 = .ok nodes) (session : Session) :
    ∃ nodes,
      (session.place.cursor (lines.flatMap (·.toList ++ ['\n']))).parse 0 = .ok nodes ∧
      (session.enter lines).buffer.toList =
        session.buffer.toList ++ lines.flatMap (·.toList ++ ['\n']) ∧
      (session.enter lines).verification = session.verification.run nodes := by
  induction lines generalizing session with
  | nil => exact ⟨[], Place.parse_nil .., (List.append_nil _).symm, rfl⟩
  | cons line lines ih =>
    simp only [List.forall_mem_cons] at unbroken readable
    obtain ⟨⟨along, clean⟩, unbroken⟩ := unbroken
    obtain ⟨⟨alone, read⟩, readable⟩ := readable
    obtain ⟨more, later, buffer, verification⟩ := ih unbroken readable (session.eval line).2
    have start : ((⟨1, 0, 0⟩ : Place).cursor line.toList).parse 0 = .ok alone := read
    obtain ⟨nodes, here, -⟩ := Place.parse_elsewhere start session.place session.settings.errorLimit
    rw [place_eval along clean] at later
    refine ⟨nodes ++ more, ?_, ?_, ?_⟩
    · have whole := Place.parse_newLine here later
      simpa using whole
    · rw [enter_cons, buffer, eval_session, trimBreaks_eq along clean]
      simp
    · rw [enter_cons, verification, eval_session, trimBreaks_eq along clean,
        Verification.run_append]
      have checked : session.verified line.toList = session.verification.run nodes := by
        rw [verified, Session.read, here]
      rw [checked]

/-- Lines that can be read on their own and are entered one by one are verified as the text of
the whole buffer is. -/
theorem entered_as_whole (settings : Settings) (lines : List String)
    (unbroken : ∀ line ∈ lines, '\n' ∉ line.toList ∧ line.toList.getLast? ≠ some '\r')
    (readable : ∀ line ∈ lines, ∃ nodes, parse line 0 = .ok nodes) :
    (enter { settings } lines).buffer.toList = lines.flatMap (·.toList ++ ['\n']) ∧
      ∃ nodes, parse (enter { settings } lines).buffer 0 = .ok nodes ∧
        (enter { settings } lines).verification = Verification.run {} nodes := by
  obtain ⟨nodes, read, buffer, verification⟩ := enter_session unbroken readable { settings }
  refine ⟨buffer, nodes, ?_, verification⟩
  rw [parse, Cursor.ofString, Cursor.startingAt, buffer]
  exact read

/-- A comment with a wide letter, an empty line, and a finding at the second statement of a
line. -/
theorem entered_as_whole_underflow :
    (∀ line ∈ ["declare X: int owned # é", "", "bind x = X; pop x"],
      '\n' ∉ line.toList ∧ line.toList.getLast? ≠ some '\r') ∧
      (enter { settings := {} } ["declare X: int owned # é", "",
        "bind x = X; pop x"]).verification.diagnostics.map (·.span) = [⟨3, 12, 39, 5⟩] ∧
      ∃ nodes, parse (enter { settings := {} } ["declare X: int owned # é", "",
          "bind x = X; pop x"]).buffer 0 = .ok nodes ∧
        (enter { settings := {} } ["declare X: int owned # é", "",
          "bind x = X; pop x"]).verification = Verification.run {} nodes := by
  have unbroken : ∀ line ∈ ["declare X: int owned # é", "", "bind x = X; pop x"],
      '\n' ∉ line.toList ∧ line.toList.getLast? ≠ some '\r' := by decide
  have succeeds : ∀ line ∈ ["declare X: int owned # é", "", "bind x = X; pop x"],
      (parse line 0).isOk = true := by decide +kernel
  refine ⟨unbroken, by decide +kernel, (entered_as_whole {} _ unbroken fun line member => ?_).2⟩
  have succeeded := succeeds line member
  cases read : parse line 0 with
  | error errors => simp [read, Except.isOk, Except.toBool] at succeeded
  | ok nodes => exact ⟨nodes, rfl⟩

/-! ## The line counter -/

/-- What can happen in a session. -/
inductive Event
  | eval (line : String)
  /-- Loading a file, which has no content if it cannot be read. -/
  | load (path : String) (content : Option String)
  | reset
  deriving DecidableEq, Repr

/-- Whether an event enters text: a line, or the content of a text file. -/
def Event.EntersText : Event → Prop
  | .eval _ => True
  | .load path _ => StreamFormat.ofPath path = .text
  | .reset => False

/-- Whether an event enters no line with a line break inside. -/
def Event.Unbroken : Event → Prop
  | .eval line => '\n' ∉ line.toList
  | _ => True

instance : DecidablePred Event.Unbroken
  | .eval line => inferInstanceAs (Decidable ('\n' ∉ line.toList))
  | .load .. => .isTrue trivial
  | .reset => .isTrue trivial

/-- A session after an event. -/
def handle (session : Session) : Event → Session
  | .eval line => (session.eval line).2
  | .load path content => (session.loadFile path content).2
  | .reset => session.reset

/-- A session after events. -/
def after (settings : Settings) (events : List Event) : Session :=
  events.foldl handle { settings }

/-- An empty text file was loaded into an empty buffer, and the session was not reset since. -/
def Skewed (settings : Settings) (events : List Event) : Prop :=
  ∃ before path later, events = before ++ .load path (some "") :: later ∧
    StreamFormat.ofPath path = .text ∧ (after settings before).buffer = "" ∧ .reset ∉ later

/-- The number of line breaks in the buffer. -/
def breaks (session : Session) : Nat :=
  session.buffer.toList.count '\n'

theorem after_concat (settings : Settings) (events : List Event) (event : Event) :
    after settings (events ++ [event]) = (after settings events).handle event := by
  rw [after, List.foldl_append, ← after]
  rfl

theorem skewed_concat {settings : Settings} {events : List Event} {event : Event} :
    Skewed settings (events ++ [event]) ↔
      (event ≠ .reset ∧ Skewed settings events) ∨
        ∃ path, event = .load path (some "") ∧ StreamFormat.ofPath path = .text ∧
          (after settings events).buffer = "" := by
  constructor
  · rintro ⟨before, path, later, split, format, empty, kept⟩
    rcases List.eq_nil_or_concat' later with rfl | ⟨later, last, rfl⟩
    · obtain ⟨rfl, single⟩ := List.append_inj' split rfl
      exact .inr ⟨path, (List.cons.inj single).1, format, empty⟩
    · rw [← List.cons_append, ← List.append_assoc] at split
      obtain ⟨rfl, single⟩ := List.append_inj' split rfl
      cases single
      rw [List.mem_append, not_or, List.mem_singleton] at kept
      exact .inl ⟨Ne.symm kept.2, before, path, later, rfl, format, empty, kept.1⟩
  · rintro (⟨other, before, path, later, rfl, format, empty, kept⟩ | ⟨path, rfl, format, empty⟩)
    · refine ⟨before, path, later ++ [event], ?_, format, empty, ?_⟩
      · rw [List.append_assoc, List.cons_append]
      · simpa using ⟨kept, Ne.symm other⟩
    · exact ⟨events, path, [], rfl, format, empty, List.not_mem_nil⟩

/-- The buffer is empty or ends with a line break. -/
def Closed (session : Session) : Prop :=
  session.buffer = "" ∨ session.buffer.toList.getLast? = some '\n'

theorem closed_eval (session : Session) (line : String) : (session.eval line).2.Closed := by
  rw [eval_session]
  apply Or.inr
  simp

theorem breaks_eval {line : String} (along : '\n' ∉ line.toList) (session : Session) :
    (session.eval line).2.breaks = session.breaks + 1 := by
  have none := List.count_eq_zero.mpr (newLine_notMem_trimBreaks along)
  rw [eval_session]
  simp [breaks, none]

theorem toList_closeLine (text : String) :
    (closeLine text).toList =
      text.toList ++ if text.toList.getLast? = some '\n' then [] else ['\n'] := by
  unfold closeLine
  split
  · exact (List.append_nil _).symm
  · exact String.toList_append

theorem closeLine_append (text : String) :
    ∃ rest, (closeLine text).toList = text.toList ++ rest :=
  ⟨_, toList_closeLine text⟩

theorem getLast?_closeLine (text : String) : (closeLine text).toList.getLast? = some '\n' := by
  rw [toList_closeLine]
  split
  · rwa [List.append_nil]
  · exact List.getLast?_concat

/-- The line breaks of the buffer after a text was loaded. -/
theorem count_closeLine {session : Session} (closed : session.Closed) (code : String) :
    (closeLine (session.buffer ++ code)).toList.count '\n' =
      session.breaks + countLines code.toList +
        if session.buffer = "" ∧ code = "" then 1 else 0 := by
  rw [toList_closeLine, String.toList_append, List.count_append, List.count_append,
    List.getLast?_append, countLines, ← breaks]
  by_cases none : code = ""
  · subst none
    rcases closed with empty | ends
    · simp [empty]
    · have filled : session.buffer ≠ "" := by
        intro empty
        simp [empty] at ends
      simp [ends, filled]
  · have filled : code.toList ≠ [] := by simpa using none
    obtain ⟨last, ends⟩ : ∃ last, code.toList.getLast? = some last :=
      Option.ne_none_iff_exists'.mp (by simpa using none)
    by_cases newLine : last = '\n'
    · simp [ends, newLine, none]
    · simp [ends, newLine, none, Nat.add_assoc]

/-- What loading a file does to the text of a session. -/
theorem cases_load (session : Session) (path : String) (content : Option String) :
    (∃ code nodes, content = some code ∧ StreamFormat.ofPath path = .text ∧
        session.handle (.load path content) = { session with
          verification := session.verification.run nodes
          buffer := closeLine (session.buffer ++ code)
          lines := session.lines + countLines code.toList }) ∨
      (¬ (content = some "" ∧ StreamFormat.ofPath path = .text) ∧
        (session.handle (.load path content)).buffer = session.buffer ∧
        (session.handle (.load path content)).lines = session.lines) := by
  rw [handle]
  cases content with
  | none => exact .inr ⟨by simp, rfl, rfl⟩
  | some code =>
    cases format : StreamFormat.ofPath path with
    | json => exact .inr ⟨by simp, loadFile_json format session code⟩
    | text =>
      rw [loadFile_text format]
      cases read : session.read code.toList with
      | ok nodes => exact .inl ⟨code, nodes, rfl, rfl, rfl⟩
      | error errors =>
        refine .inr ⟨?_, rfl, rfl⟩
        rintro ⟨empty, -⟩
        -- An empty text has no syntax errors.
        rw [Option.some.inj empty] at read
        exact nomatch (Place.parse_nil session.place session.settings.errorLimit).symm.trans read

/-- The line counter counts the line breaks of the buffer, or lags behind by one. -/
structure Tracks (session : Session) (skewed : Prop) : Prop where
  closed : session.Closed
  counted : ¬skewed → session.breaks = session.lines
  lagging : skewed → session.breaks = session.lines + 1

theorem Tracks.congr {session : Session} {skewed other : Prop} (tracks : session.Tracks skewed)
    (same : skewed ↔ other) : session.Tracks other :=
  propext same ▸ tracks

theorem Tracks.of_text {session next : Session} {skewed : Prop} (tracks : session.Tracks skewed)
    (buffer : next.buffer = session.buffer) (lines : next.lines = session.lines) :
    next.Tracks skewed := by
  obtain ⟨closed, counted, lagging⟩ := tracks
  constructor
  · rwa [Closed, buffer]
  · rwa [breaks, buffer, lines]
  · rwa [breaks, buffer, lines]

theorem tracks_initial (settings : Settings) : Tracks { settings } False where
  closed := .inl rfl
  counted _ := rfl
  lagging := False.elim

theorem Tracks.eval {session : Session} {skewed : Prop} (tracks : session.Tracks skewed)
    {line : String} (along : '\n' ∉ line.toList) : (session.eval line).2.Tracks skewed where
  closed := closed_eval session line
  counted right := by rw [breaks_eval along, tracks.counted right, eval_session]
  lagging skew := by rw [breaks_eval along, tracks.lagging skew, eval_session]

theorem Tracks.loadText {session : Session} {skewed : Prop} (tracks : session.Tracks skewed)
    (verification : Verification) (code : String) :
    Tracks { session with
      verification
      buffer := closeLine (session.buffer ++ code)
      lines := session.lines + countLines code.toList }
      (skewed ∨ session.buffer = "" ∧ code = "") := by
  have count := count_closeLine tracks.closed code
  refine ⟨.inr (getLast?_closeLine _), fun right => ?_, fun skew => ?_⟩
  · rw [not_or] at right
    rw [if_neg right.2, tracks.counted right.1] at count
    exact count
  · by_cases empty : session.buffer = "" ∧ code = ""
    · -- A buffer that lags behind holds a line break, so it is not empty.
      have right : ¬skewed := by
        intro skew
        have lagging := tracks.lagging skew
        rw [breaks, empty.1] at lagging
        exact absurd lagging (Nat.succ_ne_zero _).symm
      rw [if_pos empty, tracks.counted right] at count
      exact count
    · rw [if_neg empty, tracks.lagging (skew.resolve_right empty)] at count
      exact count.trans (Nat.add_right_comm session.lines 1 (countLines code.toList))

theorem Tracks.handle {session : Session} {skewed : Prop} (tracks : session.Tracks skewed)
    {event : Event} (unbroken : event.Unbroken) :
    (session.handle event).Tracks
      ((event ≠ .reset ∧ skewed) ∨
        ∃ path, event = .load path (some "") ∧ StreamFormat.ofPath path = .text ∧
          session.buffer = "") := by
  cases event with
  | eval line => exact (tracks.eval unbroken).congr (by simp)
  | reset => exact (tracks_initial session.settings).congr (by simp)
  | load path content =>
    rcases cases_load session path content with
      ⟨code, nodes, rfl, format, next⟩ | ⟨other, buffer, lines⟩
    · rw [next]
      exact (tracks.loadText _ code).congr (by simp [format, and_comm])
    · exact (tracks.of_text buffer lines).congr (by simp_all)

/-- The line counter along a session. -/
theorem tracks_after (settings : Settings) {events : List Event}
    (unbroken : ∀ event ∈ events, event.Unbroken) :
    (after settings events).Tracks (Skewed settings events) := by
  induction events using List.reverseRecOn with
  | nil => exact (tracks_initial settings).congr (by simp [Skewed])
  | append_singleton events event ih =>
    rw [List.forall_mem_append, List.forall_mem_singleton] at unbroken
    rw [after_concat]
    exact ((ih unbroken.1).handle unbroken.2).congr skewed_concat.symm

/-- What is read from a text that joins the buffer points at its part of the buffer, as far down
as the line counter lags behind. -/
theorem marks_of_read {session : Session} {text : List Char} {nodes : List Node}
    (read : session.read text = .ok nodes) {node : Node} (member : node ∈ nodes) {lag : Nat}
    (count : session.breaks = session.lines + lag) (rest : List Char) :
    ∃ own, { node.span with line := node.span.line + lag }.Marks
        (session.buffer.toList ++ text ++ rest) own ∧
      ∃ again, parse (String.ofList own) 0 = .ok [again] ∧ again.operation = node.operation := by
  obtain ⟨before, own, after, rfl, offset, length, line, alone⟩ := Place.parse_points read member
  refine ⟨own, ⟨session.buffer.toList ++ before, after ++ rest, ?_, ?_, length, ?_⟩,
    _, alone 0, rfl⟩
  · simp
  · rw [Text.Utf8.width_append]
    exact offset
  · rw [List.count_append, ← breaks, count]
    have start : session.place.line = session.lines + 1 := rfl
    show node.span.line + lag = _
    omega

/-- An operation that an event adds was read from a text that the event puts into the buffer. -/
theorem exists_read_of_mem {session : Session} {event : Event} (enters : event.EntersText)
    {entry : AnnotatedNode}
    (added : entry ∈ (session.handle event).verification.nodes.drop
      session.verification.nodes.length) :
    ∃ text nodes rest, session.read text = .ok nodes ∧ entry.node ∈ nodes ∧
      (session.handle event).buffer.toList = session.buffer.toList ++ text ++ rest := by
  have stays {nodes : List Node} (member : entry ∈
      (session.verification.run nodes).nodes.drop session.verification.nodes.length) :
      entry.node ∈ nodes := by
    rw [← Verification.nodes_run_drop session.verification nodes]
    exact List.mem_map_of_mem member
  cases event with
  | reset => exact enters.elim
  | eval line =>
    rw [handle, eval_session] at added ⊢
    dsimp only [verified] at added ⊢
    refine ⟨trimBreaks line.toList, ?_⟩
    cases read : session.read (trimBreaks line.toList) with
    | error errors => simp [read] at added
    | ok nodes =>
      rw [read] at added
      exact ⟨nodes, ['\n'], rfl, stays added, by simp⟩
  | load path content =>
    cases content with
    | none => simp [handle, loadFile] at added
    | some code =>
      rw [handle, loadFile_text enters] at added ⊢
      refine ⟨code.toList, ?_⟩
      cases read : session.read code.toList with
      | error errors => simp [read] at added
      | ok nodes =>
        rw [read] at added
        obtain ⟨rest, split⟩ := closeLine_append (session.buffer ++ code)
        rw [String.toList_append] at split
        exact ⟨nodes, rest, rfl, stays added, split⟩

/-- Whatever is entered next points at its own text in the buffer: the offset and the length of
its span are those of a part of the buffer that is read as the operation, and the line, if moved
down by a lag, is the line where that part starts. -/
def Points (session : Session) (lag : Nat) : Prop :=
  ∀ event, event.EntersText →
    ∀ entry ∈ (session.handle event).verification.nodes.drop session.verification.nodes.length,
      ∃ own, { entry.node.span with line := entry.node.span.line + lag }.Marks
          (session.handle event).buffer.toList own ∧
        ∃ again, parse (String.ofList own) 0 = .ok [again] ∧
          again.operation = entry.node.operation

theorem points_of_breaks {session : Session} {lag : Nat}
    (count : session.breaks = session.lines + lag) : session.Points lag := by
  intro event enters entry added
  obtain ⟨text, nodes, rest, read, member, buffer⟩ := exists_read_of_mem enters added
  rw [buffer]
  exact marks_of_read read member count rest

/-- The buffer of a session is empty or ends with a line break, and the line counter is the number
of its line breaks, so that whatever is entered next points at its own text.  After an empty text
file was loaded into an empty buffer, and until the next reset, the counter is one less, and the
lines that are reported are one too small. -/
theorem line_counter_after (settings : Settings) (events : List Event)
    (unbroken : ∀ event ∈ events, event.Unbroken) :
    ((after settings events).buffer = "" ∨
        (after settings events).buffer.toList.getLast? = some '\n') ∧
      (¬Skewed settings events →
        (after settings events).buffer.toList.count '\n' = (after settings events).lines ∧
          (after settings events).Points 0) ∧
      (Skewed settings events →
        (after settings events).buffer.toList.count '\n' = (after settings events).lines + 1 ∧
          (after settings events).Points 1) := by
  have tracks := tracks_after settings unbroken
  refine ⟨tracks.closed, fun right => ?_, fun skewed => ?_⟩
  · exact ⟨tracks.counted right, points_of_breaks (tracks.counted right)⟩
  · exact ⟨tracks.lagging skewed, points_of_breaks (tracks.lagging skewed)⟩

/-- A text without its last line break, between lines of which one cannot be read. -/
theorem line_counter_after_load :
    (∀ event ∈ [.eval "push", .load "a/é.stk" (some "bind x = X\n\npush x 1"), .eval "pop é # ü"],
        Event.Unbroken event) ∧
      (after {} [.eval "push", .load "a/é.stk" (some "bind x = X\n\npush x 1"),
        .eval "pop é # ü"]).Points 0 := by
  have unbroken : ∀ event ∈
      [.eval "push", .load "a/é.stk" (some "bind x = X\n\npush x 1"), .eval "pop é # ü"],
      Event.Unbroken event := by decide
  have right : ¬Skewed {}
      [.eval "push", .load "a/é.stk" (some "bind x = X\n\npush x 1"), .eval "pop é # ü"] := by
    rintro ⟨before, path, later, split, -⟩
    have member : .load path (some "") ∈ before ++ .load path (some "") :: later :=
      List.mem_append_right before List.mem_cons_self
    rw [← split] at member
    simp at member
  exact ⟨unbroken, ((line_counter_after {} _ unbroken).2.1 right).2⟩

theorem ofPath_text : StreamFormat.ofPath "e.stk" = .text := by
  rw [StreamFormat.ofPath, Path.extension?, Path.components_eq]
  decide

theorem after_empty : after {} [.load "e.stk" (some "")] = { settings := {}, buffer := "\n" } := by
  have read : read { settings := {} } "".toList = .ok [] := Place.parse_nil ..
  rw [after, List.foldl_cons, List.foldl_nil, handle, loadFile_text ofPath_text, read]
  decide

/-- After an empty file was loaded, the buffer has a line break that is not counted, and the next
statement is reported on the line before its own. -/
theorem line_counter_lags :
    (after {} [.load "e.stk" (some "")]).lines ≠
        (after {} [.load "e.stk" (some "")]).buffer.toList.count '\n' ∧
      ¬(after {} [.load "e.stk" (some "")]).Points 0 := by
  rw [after_empty]
  refine ⟨by decide, fun points => ?_⟩
  have first : (({ settings := {}, buffer := "\n" } : Session).handle
      (.eval "push x 1")).verification.nodes.map (·.node.span) = [⟨1, 0, 1, 8⟩] := by
    decide +kernel
  have text : (({ settings := {}, buffer := "\n" } : Session).handle
      (.eval "push x 1")).buffer.toList = '\n' :: "push x 1\n".toList := by decide
  obtain ⟨entry, nodes, span⟩ := List.map_eq_singleton_iff.mp first
  obtain ⟨own, marks, -⟩ := points (.eval "push x 1") trivial entry (by simp [nodes])
  rw [text] at marks
  obtain ⟨before, after, split, offset, -, line⟩ := marks
  simp only [span] at offset line
  cases before with
  | nil => exact nomatch offset
  | cons c before =>
    rw [List.cons_append, List.cons_append, List.cons.injEq] at split
    rw [← split.1, List.count_cons_self] at line
    omega

end Session

end Custody
