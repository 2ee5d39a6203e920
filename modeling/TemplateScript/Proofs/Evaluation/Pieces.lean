import TemplateScript.Proofs.Document.Border
import TemplateScript.Proofs.Evaluation.Visit
import TemplateScript.Runner

/-!
# Templates put together from pieces

A template of ordinary text, escaped dollar signs and directives with balanced expressions splits
where its pieces meet, whichever stand beside each other. So a runner fills it with what it gives
for each piece, in order, and an expression in it comes to the value that the runner gives for the
expression by itself. Where the runner fails with an expression, it fails with the template in the
same words.
-/

namespace TemplateScript

inductive Piece where
  | plain (content : List Char) (hordinary : ∀ c ∈ content, Segment.isOrdinary c)
  /-- An escaped dollar sign. -/
  | dollar
  | directive (expression : List Char) (hbalanced : Balanced expression) (hne : expression ≠ [])

namespace Piece

/-- What a piece is written as. -/
def source : Piece → List Char
  | .plain content _ => content
  | .dollar => ['\\', '$']
  | .directive expression _ _ => '$' :: '\x7b' :: expression ++ ['\x7d']

def segment : Piece → Segment
  | .plain content _ => .text content
  | .dollar => .escape '$'
  | .directive expression _ _ => .directive expression

/-- The segments of the pieces that are not empty. -/
def segments (pieces : List Piece) : List Segment :=
  (pieces.filter fun piece => !piece.source.isEmpty).map segment

variable {σ : Type} (runner : Runner) (hosts : HostFunctions σ) (augmentation : Value)

/-- A piece comes to a text: ordinary text to itself, an escaped dollar sign to a dollar sign, and a
directive to the text of the value of its expression. -/
inductive Gives : Piece → World σ → List Char → World σ → Prop
  | plain {w : World σ} {content : List Char} {hordinary : ∀ c ∈ content, Segment.isOrdinary c}
      (hw : content ≠ [] → w.cancellation = none) :
      Gives (.plain content hordinary) w content w
  | dollar {w : World σ} (hw : w.cancellation = none) : Gives .dollar w ['$'] w
  | directive {w w' : World σ} {expression : List Char} {hbalanced : Balanced expression}
      {hne : expression ≠ []} {value : Value} {shown : String} (hw : w.cancellation = none)
      (hvalue : (runner.evaluate hosts (.str (String.ofList expression)) augmentation).run w =
        (.ok value, w'))
      (hshown : value.display = .ok shown) :
      Gives (.directive expression hbalanced hne) w shown.toList w'

/-- A piece comes to nothing, with a message. -/
inductive Breaks : Piece → World σ → String → Prop
  | cancelled {w : World σ} {piece : Piece} {reason : String} (hne : piece.source ≠ [])
      (hw : w.cancellation = some reason) : Breaks piece w reason
  | evaluation {w w' : World σ} {expression : List Char} {hbalanced : Balanced expression}
      {hne : expression ≠ []} {fault : Fault} (hw : w.cancellation = none)
      (hfault : (runner.evaluate hosts (.str (String.ofList expression)) augmentation).run w =
        (.error fault, w')) :
      Breaks (.directive expression hbalanced hne) w fault.message
  | display {w w' : World σ} {expression : List Char} {hbalanced : Balanced expression}
      {hne : expression ≠ []} {value : Value} {why : HostFault} (hw : w.cancellation = none)
      (hvalue : (runner.evaluate hosts (.str (String.ofList expression)) augmentation).run w =
        (.ok value, w'))
      (hwhy : value.display = .error why) :
      Breaks (.directive expression hbalanced hne) w
        (Fault.ofEvaluation (String.ofList expression) (.host why)).message

/-- Pieces come to a text, one after another. -/
inductive Yields : World σ → List Piece → List Char → World σ → Prop
  | nil {w : World σ} : Yields w [] [] w
  | cons {w w₁ w' : World σ} {piece : Piece} {rest : List Piece} {text out : List Char}
      (hfirst : piece.Gives runner hosts augmentation w text w₁) (hrest : Yields w₁ rest out w') :
      Yields w (piece :: rest) (text ++ out) w'

/-- The first piece that comes to nothing does so with a message. -/
inductive Fails : World σ → List Piece → String → Prop
  | here {w : World σ} {piece : Piece} {rest : List Piece} {message : String}
      (hfirst : piece.Breaks runner hosts augmentation w message) :
      Fails w (piece :: rest) message
  | later {w w₁ : World σ} {piece : Piece} {rest : List Piece} {text : List Char}
      {message : String} (hfirst : piece.Gives runner hosts augmentation w text w₁)
      (hrest : Fails w₁ rest message) : Fails w (piece :: rest) message

/-! ### Where pieces meet -/

theorem segments_cons_of_ne {piece : Piece} (h : piece.source ≠ []) (rest : List Piece) :
    segments (piece :: rest) = piece.segment :: segments rest := by
  simp [segments, h]

theorem segments_cons_of_eq {piece : Piece} (h : piece.source = []) (rest : List Piece) :
    segments (piece :: rest) = segments rest := by
  simp [segments, h]

/-- A template splits where its pieces meet, but plain text beside plain text is one segment. -/
theorem split_source (pieces : List Piece) :
    Segment.split (pieces.flatMap source) = Segment.merge (segments pieces) := by
  induction pieces with
  | nil => rfl
  | cons piece rest ih =>
      rw [List.flatMap_cons]
      by_cases hempty : piece.source = []
      · rw [hempty, List.nil_append, ih, segments_cons_of_eq hempty]
      · rw [segments_cons_of_ne hempty]
        cases piece with
        | plain content hordinary =>
            rw [segment, ← Segment.merge_cons_merge, ← ih]
            exact Segment.split_ordinary hempty hordinary _
        | dollar =>
            rw [segment, Segment.merge_cons_of_not_isText rfl, ← ih]
            exact Segment.split_escape rfl _
        | directive expression hbalanced hne =>
            rw [segment, Segment.merge_cons_of_not_isText rfl, ← ih]
            exact Segment.split_directive hbalanced hne _

end Piece

/-! ### Merged text -/

section

variable {σ : Type} {hosts : HostFunctions σ} {nested : Nested σ} {frame : Frame}
  {augmentation : Value}

/-- Plain text is filled the same way whether it is one node or several. -/
theorem filledAll_merge (position : Position) (segments : List Segment) :
    filledAll hosts nested frame augmentation (Segment.toTrees position (Segment.merge segments)) =
      filledAll hosts nested frame augmentation (Segment.toTrees position segments) := by
  induction segments generalizing position with
  | nil => rfl
  | cons segment rest ih =>
      cases segment with
      | text content =>
          rw [Segment.merge]
          split
          · next more others hmerge =>
              rw [Segment.toTrees, Segment.toTrees, filledAll_cons, filledAll_cons, ← ih, hmerge,
                Segment.toTrees, filledAll_cons, Segment.render, Segment.render, Segment.render,
                Position.advance_append]
              -- one node asks once whether the evaluation is cancelled and two nodes ask twice, but
              -- plain text leaves the world as it is between the questions
              refine Faulting.ext fun w => ?_
              cases hw : w.cancellation with
              | some reason =>
                  rw [Faulting.run_bind_of_error (run_filled_of_cancelled hw),
                    Faulting.run_bind_of_error (run_filled_of_cancelled hw)]
              | none =>
                  rw [Faulting.run_bind_of_ok (run_filled_text hw position _),
                    Faulting.run_bind_of_ok (run_filled_text hw position _), bind_assoc,
                    Faulting.run_bind_of_ok (run_filled_text hw _ _)]
                  simp only [bind_assoc, pure_bind, List.append_assoc]
          · next =>
              rw [Segment.toTrees, Segment.toTrees, filledAll_cons, filledAll_cons, ih]
      | _ =>
          rw [Segment.merge_cons_of_not_isText rfl, Segment.toTrees, Segment.toTrees,
            filledAll_cons, filledAll_cons, ih]

end

/-! ### Evaluation by itself and in a template -/

section

variable {σ : Type} {runner : Runner} {hosts : HostFunctions σ} {augmentation : Value}
  {globals : Bindings} {w w' : World σ}

theorem run_evaluate (source : String) (w : World σ) :
    (runner.evaluate hosts (.str source) augmentation).run w =
      match (evalSource hosts (nestedTo hosts nestingLimit)
        ((runner.frame none).child (some source)) (.str source) augmentation).run w with
      | (.ok value, w') => (.ok value, w')
      | (.error fault, w') => (.error (.ofEvaluation source fault), w') := by
  have hframe : (runner.frame none).child (some source) = runner.frame (some source) := rfl
  rw [Runner.evaluate, Faulting.run_tryCatch, hframe, Value.string?]
  rcases (evalSource hosts (nestedTo hosts nestingLimit) (runner.frame (some source)) (.str source)
    augmentation).run w with ⟨fault | value, w'⟩ <;> rfl

theorem run_evaluate_eq_ok {source : String} {value : Value} :
    (runner.evaluate hosts (.str source) augmentation).run w = (.ok value, w') ↔
      (evalSource hosts (nestedTo hosts nestingLimit) ((runner.frame none).child (some source))
        (.str source) augmentation).run w = (.ok value, w') := by
  rw [run_evaluate]
  rcases (evalSource hosts (nestedTo hosts nestingLimit) ((runner.frame none).child (some source))
    (.str source) augmentation).run w with ⟨fault | value, w₁⟩
  · constructor <;> intro h <;> cases h
  · exact Iff.rfl

theorem run_evaluate_eq_error {source : String} {fault : Fault} :
    (runner.evaluate hosts (.str source) augmentation).run w = (.error fault, w') ↔
      ∃ cause, (evalSource hosts (nestedTo hosts nestingLimit)
        ((runner.frame none).child (some source)) (.str source) augmentation).run w =
          (.error cause, w') ∧ fault = .ofEvaluation source cause := by
  rw [run_evaluate]
  rcases (evalSource hosts (nestedTo hosts nestingLimit) ((runner.frame none).child (some source))
    (.str source) augmentation).run w with ⟨cause | value, w₁⟩
  · constructor
    · rintro ⟨⟩
      exact ⟨cause, rfl, rfl⟩
    · rintro ⟨_, ⟨⟩, rfl⟩
      rfl
  · constructor
    · intro h
      cases h
    · rintro ⟨_, h, _⟩
      cases h

namespace Piece

theorem run_filled_of_gives (hglobals : runner.globals = some globals) {piece : Piece}
    {text : List Char} (hne : piece.source ≠ [])
    (h : piece.Gives runner hosts augmentation w text w') (position : Position) :
    (filled hosts (nestedTo hosts nestingLimit) (runner.frame none) augmentation
      (piece.segment.toTree position)).run w = (.ok text, w') := by
  cases h with
  | plain hw => exact run_filled_text (hw hne) position _
  | dollar hw => exact run_filled_dollar hw rfl rfl
  | directive hw hvalue hshown =>
      have hrun := run_displayed_eq_ok.mpr ⟨_, run_evaluate_eq_ok.mp hvalue, hshown⟩
      exact run_filled_of_shown hglobals hw (directive_not_escape position _)
        (directive_spliced? position _) hrun

theorem run_filled_of_breaks (hglobals : runner.globals = some globals) {piece : Piece}
    {message : String} (h : piece.Breaks runner hosts augmentation w message)
    (position : Position) :
    ∃ fault w', (filled hosts (nestedTo hosts nestingLimit) (runner.frame none) augmentation
      (piece.segment.toTree position)).run w = (.error fault, w') ∧ fault.message = message := by
  cases h with
  | cancelled hne hw => exact ⟨_, _, run_filled_of_cancelled hw, rfl⟩
  | evaluation hw hfault =>
      obtain ⟨cause, hcause, rfl⟩ := run_evaluate_eq_error.mp hfault
      exact ⟨_, _, run_filled_of_fault hglobals hw (directive_not_escape position _)
        (directive_spliced? position _) (run_displayed_of_fault hcause), message_blame ..⟩
  | display hw hvalue hwhy =>
      have hrun := run_displayed_of_unshown (run_evaluate_eq_ok.mp hvalue) hwhy
      exact ⟨_, _, run_filled_of_fault hglobals hw (directive_not_escape position _)
        (directive_spliced? position _) hrun, message_blame ..⟩

/-- Every piece comes to a text or to nothing. -/
theorem gives_or_breaks (w : World σ) (piece : Piece) :
    (∃ text w', piece.Gives runner hosts augmentation w text w') ∨
      ∃ message, piece.Breaks runner hosts augmentation w message := by
  by_cases hempty : piece.source = []
  · cases piece with
    | plain content hordinary => exact .inl ⟨_, _, .plain fun hne => absurd hempty hne⟩
    | dollar => cases hempty
    | directive expression hbalanced hne => cases hempty
  · cases hw : w.cancellation with
    | some reason => exact .inr ⟨_, .cancelled hempty hw⟩
    | none =>
        cases piece with
        | plain content hordinary => exact .inl ⟨_, _, .plain fun _ => hw⟩
        | dollar => exact .inl ⟨_, _, .dollar hw⟩
        | directive expression hbalanced hne =>
            rcases hrun : (runner.evaluate hosts (.str (String.ofList expression))
              augmentation).run w with ⟨fault | value, w'⟩
            · exact .inr ⟨_, .evaluation hw hrun⟩
            · cases hshown : value.display with
              | ok shown => exact .inl ⟨_, _, .directive hw hrun hshown⟩
              | error why => exact .inr ⟨_, .display hw hrun hshown⟩

/-- Pieces come to a text unless one of them comes to nothing. -/
theorem yields_or_fails (w : World σ) (pieces : List Piece) :
    (∃ out w', Yields runner hosts augmentation w pieces out w') ∨
      ∃ message, Fails runner hosts augmentation w pieces message := by
  induction pieces generalizing w with
  | nil => exact .inl ⟨_, _, .nil⟩
  | cons piece rest ih =>
      rcases gives_or_breaks w piece with ⟨text, w₁, hfirst⟩ | ⟨message, hfirst⟩
      · rcases ih w₁ with ⟨out, w', hrest⟩ | ⟨message, hrest⟩
        · exact .inl ⟨_, _, .cons hfirst hrest⟩
        · exact .inr ⟨_, .later hfirst hrest⟩
      · exact .inr ⟨_, .here hfirst⟩

theorem source_ne_nil_of_breaks {piece : Piece} {message : String}
    (h : piece.Breaks runner hosts augmentation w message) : piece.source ≠ [] := by
  cases h with
  | cancelled hne _ => exact hne
  | evaluation _ _ => simp [source]
  | display _ _ _ => simp [source]

theorem eq_of_gives_empty {piece : Piece} {text : List Char} (hempty : piece.source = [])
    (h : piece.Gives runner hosts augmentation w text w') : text = [] ∧ w' = w := by
  cases h with
  | plain _ => exact ⟨hempty, rfl⟩
  | dollar _ => cases hempty
  | directive _ _ _ => cases hempty

theorem run_filledAll_of_yields (hglobals : runner.globals = some globals) {pieces : List Piece}
    {out : List Char} (h : Yields runner hosts augmentation w pieces out w')
    (position : Position) :
    (filledAll hosts (nestedTo hosts nestingLimit) (runner.frame none) augmentation
      (Segment.toTrees position (segments pieces))).run w = (.ok out, w') := by
  induction h generalizing position with
  | nil =>
      rw [segments, List.filter_nil, List.map_nil, Segment.toTrees, filledAll_nil]
      rfl
  | @cons w w₁ w' piece rest text out hfirst _ ih =>
      by_cases hempty : piece.source = []
      · -- an empty piece has no node, and so nothing asks whether the world is cancelled
        obtain ⟨rfl, rfl⟩ := eq_of_gives_empty hempty hfirst
        rw [segments_cons_of_eq hempty]
        exact ih position
      · rw [segments_cons_of_ne hempty, Segment.toTrees, filledAll_cons,
          Faulting.run_bind_of_ok (run_filled_of_gives hglobals hempty hfirst position),
          Faulting.run_bind_of_ok (ih _)]
        rfl

theorem run_filledAll_of_fails (hglobals : runner.globals = some globals) {pieces : List Piece}
    {message : String} (h : Fails runner hosts augmentation w pieces message)
    (position : Position) :
    ∃ fault w', (filledAll hosts (nestedTo hosts nestingLimit) (runner.frame none) augmentation
      (Segment.toTrees position (segments pieces))).run w = (.error fault, w') ∧
        fault.message = message := by
  induction h generalizing position with
  | here hfirst =>
      obtain ⟨fault, w', hrun, hmessage⟩ := run_filled_of_breaks hglobals hfirst position
      refine ⟨fault, w', ?_, hmessage⟩
      rw [segments_cons_of_ne (source_ne_nil_of_breaks hfirst), Segment.toTrees, filledAll_cons,
        Faulting.run_bind_of_error hrun]
  | @later w w₁ piece rest text message hfirst _ ih =>
      by_cases hempty : piece.source = []
      · obtain ⟨rfl, rfl⟩ := eq_of_gives_empty hempty hfirst
        rw [segments_cons_of_eq hempty]
        exact ih position
      · obtain ⟨fault, w', hrun, hmessage⟩ := ih (position.advance piece.segment.render)
        refine ⟨fault, w', ?_, hmessage⟩
        rw [segments_cons_of_ne hempty, Segment.toTrees, filledAll_cons,
          Faulting.run_bind_of_ok (run_filled_of_gives hglobals hempty hfirst position),
          Faulting.run_bind_of_error hrun]

end Piece

end

/-! ### Runners -/

/-- Parts that are filled together come to what they come to in order, or to the same fault. -/
theorem interpolate_agree {σ : Type} (hosts : HostFunctions σ) (nested : Nested σ)
    (concurrent : Bool) (frame : Frame) (template augmentation : Value) :
    Faulting.Agree (interpolate hosts nested false frame template augmentation)
      (interpolate hosts nested concurrent frame template augmentation) := by
  cases concurrent with
  | false => exact .refl _
  | true =>
      refine (Faulting.Agree.refl _).bind fun _ => (Faulting.Agree.refl _).bind fun tree => ?_
      exact (Tree.edited_agree _ tree).bind fun filled => .refl _

/-- A run failed in these words. -/
def FailsIn {σ α : Type} (outcome : Except Fault α × World σ) (message : String) : Prop :=
  ∃ fault, outcome.1 = .error fault ∧ fault.message = message

theorem FailsIn.message_eq {σ α : Type} {outcome : Except Fault α × World σ}
    {message message' : String} (h : FailsIn outcome message) (h' : FailsIn outcome message') :
    message = message' := by
  obtain ⟨fault, herror, rfl⟩ := h
  obtain ⟨fault', herror', rfl⟩ := h'
  rw [herror] at herror'
  cases herror'
  rfl

theorem FailsIn.ne_ok {σ α : Type} {outcome : Except Fault α × World σ} {message : String}
    (h : FailsIn outcome message) (a : α) (w' : World σ) : outcome ≠ (.ok a, w') := by
  rintro rfl
  obtain ⟨fault, herror, -⟩ := h
  cases herror

section

variable {σ : Type} {runner : Runner} {hosts : HostFunctions σ} {augmentation : Value}
  {globals : Bindings} {w w' : World σ} {pieces : List Piece}

theorem interpolate_source (hglobals : runner.globals = some globals) :
    interpolate hosts (nestedTo hosts nestingLimit) false (runner.frame none)
        (.str (String.ofList (pieces.flatMap Piece.source))) augmentation =
      Eval.checkCancelled (runner.frame none) >>= fun _ =>
        String.ofList <$> filledAll hosts (nestedTo hosts nestingLimit) (runner.frame none)
          augmentation (Segment.toTrees .start (Piece.segments pieces)) := by
  rw [interpolate_eq_filledAll hglobals, String.toList_ofList, Piece.split_source, filledAll_merge]

theorem interpolate_of_yields (hglobals : runner.globals = some globals)
    (hw : w.cancellation = none) {out : List Char}
    (h : Piece.Yields runner hosts augmentation w pieces out w') :
    (runner.interpolate hosts (.str (String.ofList (pieces.flatMap Piece.source)))
      augmentation).run w = (.ok (String.ofList out), w') := by
  refine (interpolate_agree _ _ _ _ _ _ w).2 _ _ ?_
  rw [interpolate_source hglobals,
    Faulting.run_bind_of_ok (Eval.run_checkCancelled_of_none hw), Faulting.run_map,
    Piece.run_filledAll_of_yields hglobals h]
  rfl

theorem interpolate_of_fails (hglobals : runner.globals = some globals)
    (hw : w.cancellation = none) {message : String}
    (h : Piece.Fails runner hosts augmentation w pieces message) :
    FailsIn ((runner.interpolate hosts (.str (String.ofList (pieces.flatMap Piece.source)))
      augmentation).run w) message := by
  obtain ⟨fault, w', hrun, hmessage⟩ := Piece.run_filledAll_of_fails hglobals h .start
  refine ⟨fault, (interpolate_agree _ _ _ _ _ _ w).1.symm.trans ?_, hmessage⟩
  rw [interpolate_source hglobals,
    Faulting.run_bind_of_ok (Eval.run_checkCancelled_of_none hw), Faulting.run_map, hrun]
  rfl

theorem interpolate_of_cancelled (hglobals : runner.globals = some globals) {reason : String}
    (hw : w.cancellation = some reason) :
    FailsIn ((runner.interpolate hosts (.str (String.ofList (pieces.flatMap Piece.source)))
      augmentation).run w) reason := by
  refine ⟨.runtime (.cancelled reason) .cancelled none none,
    (interpolate_agree _ _ _ _ _ _ w).1.symm.trans ?_, rfl⟩
  rw [interpolate_source hglobals,
    Faulting.run_bind_of_error (Eval.run_checkCancelled_of_some hw)]
  rfl

end

/-- A runner fills a template of pieces with what the pieces come to, one after another. It fails if
one of them comes to nothing, and then in the words in which the first such piece does. -/
theorem interpolate_pieces {σ : Type} (globals : Bindings) (location : Option String)
    (concurrent : Bool) (hosts : HostFunctions σ) (augmentation : Value) (pieces : List Piece)
    (w : World σ) :
    let runner : Runner := ⟨some globals, location, concurrent⟩
    let outcome := (runner.interpolate hosts (.str (String.ofList (pieces.flatMap Piece.source)))
      augmentation).run w
    (∀ result w', outcome = (.ok result, w') ↔
      w.cancellation = none ∧ Piece.Yields runner hosts augmentation w pieces result.toList w') ∧
    ∀ message, FailsIn outcome message ↔
      w.cancellation = some message ∨
        w.cancellation = none ∧ Piece.Fails runner hosts augmentation w pieces message := by
  intro runner outcome
  have hglobals : runner.globals = some globals := rfl
  cases hw : w.cancellation with
  | some reason =>
      have hcancelled : FailsIn outcome reason := interpolate_of_cancelled hglobals hw
      refine ⟨fun result w' => ⟨fun hok => absurd hok (hcancelled.ne_ok result w'), fun h => ?_⟩,
        fun message => ⟨fun h => .inl (congrArg some (hcancelled.message_eq h)), fun h => ?_⟩⟩
      · cases h.1
      · rcases h with hreason | ⟨hnone, -⟩
        · cases hreason
          exact hcancelled
        · cases hnone
  | none =>
      have hyields {out : List Char} {w' : World σ}
          (h : Piece.Yields runner hosts augmentation w pieces out w') :
          outcome = (.ok (String.ofList out), w') :=
        interpolate_of_yields hglobals hw h
      have hfails {message : String} (h : Piece.Fails runner hosts augmentation w pieces message) :
          FailsIn outcome message :=
        interpolate_of_fails hglobals hw h
      refine ⟨fun result w' => ⟨fun hok => ⟨rfl, ?_⟩, fun h => ?_⟩,
        fun message => ⟨fun h => .inr ⟨rfl, ?_⟩, fun h => ?_⟩⟩
      · rcases Piece.yields_or_fails w pieces with ⟨out, w₁, h⟩ | ⟨message, h⟩
        · cases (hyields h).symm.trans hok
          rw [String.toList_ofList]
          exact h
        · exact absurd hok ((hfails h).ne_ok result w')
      · rw [hyields h.2, String.ofList_toList]
      · rcases Piece.yields_or_fails w pieces with ⟨out, w₁, hout⟩ | ⟨message', hfirst⟩
        · exact absurd (hyields hout) (h.ne_ok _ _)
        · rw [h.message_eq (hfails hfirst)]
          exact hfirst
      · rcases h with hreason | ⟨-, hfirst⟩
        · cases hreason
        · exact hfails hfirst

end TemplateScript
