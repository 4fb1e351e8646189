import ServiceHost.Proofs.Json.DistinctTexts
import ServiceHost.Proofs.Session.Output

/-!
# Frames read back from an event stream

A reader of event streams splits its text at blank lines and looks at the lines of each block.  The
blocks of the text of some frames are the lines of these frames, and each of them stands for one
frame (`framesOf?_textOf`): a frame holds no blank line, since the text of a value is one line, and
every frame but the last of a session ends with one.
-/

namespace ServiceHost.Session

/-- The text of some frames. -/
def textOf (frames : List Frame) : String :=
  String.join (frames.map Frame.text)

@[simp] theorem textOf_nil : textOf [] = "" := rfl

theorem textOf_append (frames more : List Frame) :
    textOf (frames ++ more) = textOf frames ++ textOf more := by
  rw [textOf, List.map_append, String.join_append, textOf, textOf]

theorem textOf_singleton (frame : Frame) : textOf [frame] = frame.text := by
  simp [textOf]

/-! ## The reader -/

/-- A line, without its line break. -/
abbrev Line := List Char

/-- The blocks of a text: the runs of lines between its blank lines. -/
def blocksOf (text : String) : List (List Line) :=
  ((text.toList.splitOn '\n').splitOn []).filter (!·.isEmpty)

namespace Frame

/-- What stands in front of a value. -/
def dataMark : Line := "data: ".toList

/-- The lines of a frame. -/
def lines : Frame → List Line
  | ping => [": ping".toList]
  | opened => ["events: stream opened".toList]
  | timeout => ["events: stream timeout".toList]
  | eof => ["events: error".toList, "data: eof".toList]
  | closed => ["events: stream closed".toList]
  | data json => [dataMark ++ json.toList]

/-- The frame that a block of lines stands for. -/
def ofLines? : List Line → Option Frame
  | [line] =>
    match dataMark.isPrefixOf? line with
    | some json => some (data (String.ofList json))
    | none => [ping, opened, timeout, closed].find? (·.lines == [line])
  | block => if block = eof.lines then some eof else none

end Frame

/-- The frames that a text stands for. -/
def framesOf? (text : String) : Option (List Frame) :=
  (blocksOf text).mapM Frame.ofLines?

/-- The text of a value behind its mark, if a block is one line with a mark. -/
def valueText? : List Line → Option Line
  | [line] => Frame.dataMark.isPrefixOf? line
  | _ => none

/-- The texts of the values in a text. -/
def valueTextsOf (text : String) : List Line :=
  (blocksOf text).filterMap valueText?

/-! ## Reading back -/

namespace Frame

/-- Whether a frame holds a value without control characters, or no value. -/
def IsPlain : Frame → Prop
  | data json => ∀ c ∈ json.toList, 0x20 ≤ c.toNat
  | _ => True

variable {frame : Frame}

theorem isPrefixOf?_dataMark (json : Line) : dataMark.isPrefixOf? (dataMark ++ json) = some json :=
  List.isPrefixOf?_eq_some_iff_append_eq.mpr rfl

theorem ofLines?_lines (frame : Frame) : ofLines? frame.lines = some frame := by
  cases frame with
  | data json => simp [lines, ofLines?, isPrefixOf?_dataMark]
  | _ => rfl

/-- Only the block of a value has the text of one. -/
theorem valueText?_lines (frame : Frame) :
    valueText? frame.lines = match frame with
      | data json => some json.toList
      | _ => none := by
  cases frame with
  | data json => exact isPrefixOf?_dataMark json.toList
  | _ => rfl

theorem lines_ne_nil (frame : Frame) : frame.lines ≠ [] := by
  cases frame <;> exact List.cons_ne_nil _ _

/-- No line of a frame is blank. -/
theorem nil_not_mem_lines (frame : Frame) : [] ∉ frame.lines := by
  cases frame with
  | data json =>
      rw [lines, List.mem_singleton]
      intro hblank
      exact absurd (List.append_eq_nil_iff.mp hblank.symm).1 (by decide)
  | _ => decide

/-- A frame is written as its lines with a line break behind each of them, and a blank line, unless it
is the last one. -/
theorem toList_text (hne : frame ≠ closed) :
    frame.text.toList = frame.lines.flatMap (· ++ ['\n']) ++ ['\n'] := by
  cases frame with
  | data json =>
      rw [text, String.toList_append, String.toList_append, lines, List.flatMap_singleton,
        List.append_assoc, List.append_assoc, List.append_assoc]
      rfl
  | closed => exact absurd rfl hne
  | _ => decide

/-- No line of a plain frame holds a line break. -/
theorem lineBreak_not_mem (hplain : frame.IsPlain) : ∀ line ∈ frame.lines, '\n' ∉ line := by
  cases frame with
  | data json =>
      intro line hline
      rw [lines, List.mem_singleton] at hline
      rw [hline, List.mem_append, not_or]
      exact ⟨by decide, fun hmem => absurd (hplain '\n' hmem) (by decide)⟩
  | _ => decide

theorem carriageReturn_not_mem (hplain : frame.IsPlain) : '\r' ∉ frame.text.toList := by
  cases frame with
  | data json =>
      rw [text, String.toList_append, String.toList_append, List.mem_append, List.mem_append]
      intro hmem
      obtain (hmark | hjson) | hbreak := hmem
      · revert hmark
        decide
      · exact absurd (hplain '\r' hjson) (by decide)
      · revert hbreak
        decide
  | _ => decide

end Frame

/-- The lines of a text are read off it, whatever stands behind them. -/
theorem splitOn_lines {lines : List Line} (h : ∀ line ∈ lines, '\n' ∉ line) (rest : List Char) :
    (lines.flatMap (· ++ ['\n']) ++ rest).splitOn '\n' = lines ++ rest.splitOn '\n' := by
  induction lines with
  | nil => rfl
  | cons line lines ih =>
      obtain ⟨hline, hlines⟩ := List.forall_mem_cons.mp h
      rw [List.flatMap_cons, List.append_assoc, List.append_assoc, List.singleton_append,
        List.splitOn_append_cons_self_of_not_mem hline, ih hlines, List.cons_append]

/-- A frame stands in a text as its lines and a blank line, unless it is the last one. -/
theorem Frame.splitOn_text_append {frame : Frame} (hplain : frame.IsPlain)
    (hne : frame ≠ closed) (rest : List Char) :
    (frame.text.toList ++ rest).splitOn '\n' = frame.lines ++ [] :: rest.splitOn '\n' := by
  have hblank : ('\n' :: rest).splitOn '\n' = [] :: rest.splitOn '\n' :=
    List.splitOn_append_cons_self_of_not_mem (List.not_mem_nil (a := '\n')) rest
  rw [toList_text hne, List.append_assoc, splitOn_lines (lineBreak_not_mem hplain),
    List.singleton_append, hblank]

/-- Whether frames are plain, and the closing one is the last. -/
structure IsReadable (frames : List Frame) : Prop where
  closed_last : Frame.closed ∉ frames.dropLast
  plain : ∀ frame ∈ frames, frame.IsPlain

/-- **The blocks of a text are the lines of its frames.** -/
theorem blocksOf_textOf {frames : List Frame} (h : IsReadable frames) :
    blocksOf (textOf frames) = frames.map Frame.lines := by
  induction frames with
  | nil => decide
  | cons frame rest ih =>
      by_cases hclosed : frame = .closed
      · subst hclosed
        cases rest with
        | nil => decide
        | cons next rest => exact absurd List.mem_cons_self h.closed_last
      · have hrest : IsReadable rest := by
          refine ⟨fun hmem => h.closed_last ?_, fun other hmem =>
            h.plain other (List.mem_cons_of_mem _ hmem)⟩
          cases rest with
          | nil => cases hmem
          | cons next rest => exact List.mem_cons_of_mem _ hmem
        have htext : (textOf (frame :: rest)).toList = frame.text.toList ++ (textOf rest).toList := by
          rw [textOf, List.map_cons, String.join_cons, String.toList_append, textOf]
        have hblocks := ih hrest
        unfold blocksOf at hblocks ⊢
        rw [htext, Frame.splitOn_text_append (h.plain frame List.mem_cons_self) hclosed,
          List.splitOn_append_cons_self_of_not_mem frame.nil_not_mem_lines, List.filter_cons,
          if_pos (by simp [frame.lines_ne_nil]), hblocks, List.map_cons]

/-- The lines of a stream end with line breaks alone. -/
theorem carriageReturn_not_mem_textOf {frames : List Frame} (h : IsReadable frames) :
    '\r' ∉ (textOf frames).toList := by
  rw [textOf, String.toList_join, List.mem_flatMap]
  intro hmem
  obtain ⟨text, htext, hmem⟩ := hmem
  obtain ⟨frame, hframe, rfl⟩ := List.mem_map.mp htext
  exact Frame.carriageReturn_not_mem (h.plain frame hframe) hmem

theorem mapM_ofLines?_lines (frames : List Frame) :
    (frames.map Frame.lines).mapM Frame.ofLines? = some frames := by
  induction frames with
  | nil => rfl
  | cons frame rest ih => simp [List.mapM_cons, ih, Frame.ofLines?_lines]

/-- **The frames are read back from their text.** -/
theorem framesOf?_textOf {frames : List Frame} (h : IsReadable frames) :
    framesOf? (textOf frames) = some frames := by
  rw [framesOf?, blocksOf_textOf h, mapM_ofLines?_lines]

/-- **The texts of the values are read back from among all frames.** -/
theorem valueTextsOf_textOf {frames : List Frame} (h : IsReadable frames) {values : List Json}
    (hvalues : dataFrames frames = values.map fun value => .data value.render) :
    valueTextsOf (textOf frames) = values.map Json.write := by
  have hframes : ∀ frames : List Frame, (frames.map Frame.lines).filterMap valueText? =
      ((dataFrames frames).map Frame.lines).filterMap valueText? := by
    intro frames
    induction frames with
    | nil => rfl
    | cons frame frames ih =>
        unfold dataFrames at ih ⊢
        cases frame with
        | data json =>
            have hdata : (Frame.data json).isData = true := rfl
            simp only [List.filter_cons_of_pos hdata, List.map_cons, List.filterMap_cons,
              Frame.valueText?_lines, ih]
        | _ =>
            rw [List.filter_cons_of_neg (by decide), List.map_cons, List.filterMap_cons,
              Frame.valueText?_lines, ih]
  rw [valueTextsOf, blocksOf_textOf h, hframes, hvalues]
  induction values with
  | nil => rfl
  | cons value values ih => simp [Frame.valueText?_lines, Json.render]

/-! ## The frames of a session -/

/-- The closing frame is the last of a session. -/
theorem IsBeginning.closed_last {frames : List Frame} (h : IsBeginning frames) :
    Frame.closed ∉ frames.dropLast := by
  obtain ⟨late, whole, ⟨before, ⟨middle, hmiddle, rfl⟩, rfl⟩, hfront⟩ := h
  intro hmem
  have hwhole : Frame.closed ∈ [Frame.ping, .opened] ++ middle ++ notice late ++ [.eof] := by
    obtain ⟨rest, hrest⟩ := hfront
    cases rest using List.reverseRecOn with
    | nil =>
        rw [List.append_nil] at hrest
        rw [hrest, List.dropLast_append_of_ne_nil (by simp)] at hmem
        exact hmem
    | append_singleton rest last =>
        have hlast : frames ++ rest ++ [last] =
            [Frame.ping, .opened] ++ middle ++ notice late ++ [.eof] ++ [.closed] := by
          rw [List.append_assoc, hrest]
          simp
        rw [← List.append_inj_left' hlast rfl]
        exact List.mem_append_left _ (List.mem_of_mem_dropLast hmem)
  have hnotice : Frame.closed ∉ notice late := by
    cases late <;> decide
  simp only [List.mem_append, List.mem_cons, List.not_mem_nil, or_false, hnotice,
    reduceCtorEq, false_or] at hwhole
  have hrunning := hmiddle .closed hwhole
  cases hrunning

/-- The text of a value holds no control character. -/
theorem isPlain_render (value : Json) : (Frame.data value.render).IsPlain := by
  intro c hmem
  apply Json.printable_of_mem_write value c
  rwa [Json.render, String.toList_ofList] at hmem

end ServiceHost.Session
