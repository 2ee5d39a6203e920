import TemplateScript.Proofs.Expr.Operand
import TemplateScript.Proofs.Expr.Spelling

/-!
# Written expressions are read back

Every expression whose operands bind as tightly as their places ask for is read back from its
lexemes, however they are written and spaced. The proof is by induction on the expression, for every
depth to which the rules are tied and which is enough for the number of its lexemes; a text has at
least as many characters.
-/

namespace TemplateScript

namespace Grammar

/-! ### Lengths -/

theorem length_le_separated {separator : String} {parts : List (List Lexeme)} {ts : List Lexeme}
    (h : ts ∈ parts) : ts.length ≤ (separated separator parts).length := by
  cases parts with
  | nil => cases h
  | cons first rest =>
      rw [separated, List.length_append]
      rcases List.mem_cons.mp h with rfl | hrest
      · exact Nat.le_add_right _ _
      · have hsublist := List.sublist_flatten_of_mem
          (List.mem_map_of_mem (f := (Lexeme.mark separator :: ·)) hrest)
        have hlength := hsublist.length_le
        rw [List.length_cons, ← List.flatMap_def] at hlength
        omega

theorem length_bracketed (left right : String) (ts : List Lexeme) :
    (bracketed left right ts).length = ts.length + 2 := by
  rw [bracketed, List.length_cons, List.length_append, List.length_singleton]

end Grammar

/-! ### All expressions -/

open Grammar

section

variable {separator : String}

theorem length_lexemes_le_of_mem {args : List Expr} {arg : Expr} (h : arg ∈ args) :
    (arg.lexemes separator).length ≤ (separated "," (lexemesOfAll separator args)).length := by
  rw [lexemesOfAll_eq_map]
  exact length_le_separated (List.mem_map_of_mem h)

theorem length_lexemesOfField_le_of_mem {fields : List (Option Expr × Expr)}
    {field : Option Expr × Expr} (h : field ∈ fields) :
    (lexemesOfField separator field).length ≤
      (separated separator (lexemesOfFields separator fields)).length := by
  rw [lexemesOfFields_eq_map]
  exact length_le_separated (List.mem_map_of_mem h)

theorem Expr.Grouped.parses (hseparator : separator = "," ∨ separator = ";") {e : Expr}
    (h : e.Grouped) : ParsesFrom separator e := by
  induction h with
  | nil loc => exact fun depth _ => parses_of_primary (.nil loc) rfl fun more => reads_nil loc
  | bool b loc =>
      exact fun depth _ => parses_of_primary (.bool b loc) rfl fun more => reads_bool b loc
  | int hlength loc =>
      exact fun depth _ => parses_of_primary (.int hlength loc) rfl fun more =>
        reads_int hlength loc
  | str s loc => exact fun depth _ => parses_of_primary (.str s loc) rfl fun more => reads_str s loc
  | name hname loc =>
      exact fun depth _ => parses_of_primary (.name hname loc) rfl fun more => reads_variable _ loc
  | @index obj key hobj htight hkey loc ihobj ihkey =>
      intro depth hdepth
      rw [Expr.lexemes, List.length_append, length_bracketed] at hdepth
      refine parses_of_suffix (.index hobj htight hkey loc) rfl rfl (ihobj depth (by omega)) htight
        (List.cons_ne_nil _ _) (stops_follower (k := 9) (by decide) _) fun more => ?_
      exact reads_indexSuffix loc (ihkey.expression hkey (by omega))
  | @call fn args hfn htight hargs loc ihfn ihargs =>
      intro depth hdepth
      rw [Expr.lexemes, List.length_append, length_bracketed] at hdepth
      refine parses_of_suffix (.call hfn htight hargs loc) rfl rfl (ihfn depth (by omega)) htight
        (List.cons_ne_nil _ _) (stops_follower (k := 9) (by decide) _) fun more => ?_
      refine reads_callSuffix (rejects_expression (by decide) (by omega)) (fun arg harg => ?_) loc
      have hshorter : (arg.lexemes separator).length ≤ _ := length_lexemes_le_of_mem harg
      exact (ihargs arg harg).expression (hargs arg harg) (by omega)
  | @methodCall obj name args hobj htight hname hargs loc ihobj ihargs =>
      intro depth hdepth
      rw [Expr.lexemes, List.length_append, List.length_cons, List.length_cons,
        length_bracketed] at hdepth
      refine parses_of_suffix (.methodCall hobj htight hname hargs loc) rfl rfl
        (ihobj depth (by omega)) htight (List.cons_ne_nil _ _)
        (stops_follower (k := 9) (by decide) _) fun more => ?_
      refine reads_methodSuffix (rejects_expression (by decide) (by omega)) (fun arg harg => ?_) loc
      have hshorter : (arg.lexemes separator).length ≤ _ := length_lexemes_le_of_mem harg
      exact (ihargs arg harg).expression (hargs arg harg) (by omega)
  | @binary op left right hop hleft hright hleftTight hrightTight loc ihleft ihright =>
      intro depth hdepth
      rw [Expr.lexemes, List.length_append, List.length_cons] at hdepth
      have hgrouped := Expr.Grouped.binary hop hleft hright hleftTight hrightTight loc
      have hlevels : ∀ op ∈ BinaryOp.known,
          (op.level ∈ leftward ∧ op.leftLevel = op.level ∧ op.rightLevel = op.level + 1) ∨
            op.level ∈ rightwards ∧ op.leftLevel = op.level + 1 := by decide
      rcases hlevels op hop with ⟨hlevel, hside, hother⟩ | ⟨hlevel, hside⟩
      · rw [hside] at hleftTight
        exact parses_of_leftward hgrouped rfl (BinaryOp.follows hop) (ihleft depth (by omega))
          hlevel hleftTight fun more hmore =>
            reads_binary hop ihright hrightTight (by omega) (hother ▸ hmore) loc
      · rw [hside] at hleftTight
        exact parses_of_rightwards hgrouped rfl (BinaryOp.follows hop) (ihleft depth (by omega))
          hlevel hleftTight fun more hmore => reads_binary hop ihright hrightTight (by omega)
            (stops_rightOperand hop hlevel hmore) loc
  | @logical op left right hop hleft hright hleftTight hrightTight loc ihleft ihright =>
      intro depth hdepth
      rw [Expr.lexemes, List.length_append, List.length_cons] at hdepth
      have hgrouped := Expr.Grouped.logical hop hleft hright hleftTight hrightTight loc
      have hlevel : op.level ∈ leftward := by rcases hop with rfl | rfl <;> decide
      exact parses_of_leftward hgrouped rfl (LogicalOp.follows hop) (ihleft depth (by omega)) hlevel
        hleftTight fun more hmore => reads_logical hop ihright hrightTight (by omega) hmore loc
  | @unary op operand hop hoperand htight loc ih =>
      intro depth hdepth
      rw [Expr.lexemes, List.length_cons] at hdepth
      obtain ⟨inner, rfl⟩ : ∃ inner, depth = inner + 1 := ⟨depth - 1, by omega⟩
      refine parses_of_level (.unary hop hoperand htight loc) (fun more hmore => ?_) ?_ ?_
      · have hread := (ih inner (by omega)).reads 7 (by decide) htight more hmore
        exact reads_unary hop hread loc
      · exact fun hleftward => absurd hleftward (by decide : 7 ∉ leftward)
      · exact fun hnine => absurd hnine (by decide : ¬ 9 ≤ 7)
  | @paren inner hinner loc ih =>
      intro depth hdepth
      rw [Expr.lexemes, length_bracketed] at hdepth
      exact parses_of_primary (.paren hinner loc) rfl fun more =>
        reads_group loc (ih.expression hinner (by omega))
  | @table fields hkeys hvalues loc ihkeys ihvalues =>
      intro depth hdepth
      rw [Expr.lexemes, length_bracketed] at hdepth
      refine parses_of_primary (.table hkeys hvalues loc) rfl fun more => ?_
      refine reads_table loc hseparator (rejects_expression (by decide) (by omega)) ?_
      rintro ⟨_ | key, value⟩ hfield more hmore
      · have hshorter : (lexemesOfField separator (none, value)).length ≤ _ :=
          length_lexemesOfField_le_of_mem hfield
        rw [lexemesOfField] at hshorter ⊢
        have hdeep : (value.lexemes separator).length < depth := by omega
        exact reads_positionalField (hvalues _ hfield).leads hmore
          ((ihvalues _ hfield).expression (hvalues _ hfield) hdeep more hmore)
      · have hshorter : (lexemesOfField separator (some key, value)).length ≤ _ :=
          length_lexemesOfField_le_of_mem hfield
        rw [lexemesOfField, List.length_append, length_bracketed, List.length_cons] at hshorter
        have hkey : (key.lexemes separator).length < depth := by omega
        have hvalue : (value.lexemes separator).length < depth := by omega
        exact reads_keyedField hmore
          ((ihkeys _ hfield key rfl).expression (hkeys _ hfield key rfl) hkey)
          ((ihvalues _ hfield).expression (hvalues _ hfield) hvalue)

end

/-- The root rule reads an expression between blanks. -/
theorem Grammar.gives_root {separator : String} (hseparator : separator = "," ∨ separator = ";")
    {e : Expr} (h : e.Grouped) {text : List Char}
    (hwritten : Written (e.lexemes separator) text) :
    ∃ found later, Reader.Gives Grammar.root (Cursor.ofText text) found later ∧ later.rest = [] ∧
      found.Recovers e := by
  have hfront : Written (e.lexemes separator) (Cursor.ofText text).rest := hwritten
  obtain ⟨start, hblanks, hstands, hshorter⟩ := Reader.gives_blanks hfront
  have hcount : (e.lexemes separator).length ≤ text.length :=
    Nat.le_trans hstands.length_le hshorter
  have hreads := (h.parses hseparator text.length hcount).reads 1 (Nat.le_refl 1) h.level_bounds.1
    [] (stops_nil 1)
  obtain ⟨found, middle, hrun, hbehind, -, hrecovers⟩ := hreads start (by rwa [List.append_nil])
  obtain ⟨later, hblanks', hend, -⟩ := Reader.gives_blanks hbehind.written
  refine ⟨found, later, ?_, stands_nil hend, hrecovers⟩
  exact (Reader.gives_get _).bind ((hblanks.bind hrun).bind
    (hblanks'.bind (Reader.gives_pure found later)))

/-- The root rule took the whole text, and no integer in it is too long. -/
theorem parseExpr_of_gives_root {text : String} {found : Expr} {later : Cursor}
    (h : Reader.Gives Grammar.root (Cursor.ofText text.toList) found later)
    (hend : later.rest = []) (hshort : found.overlongInteger? = none) :
    parseExpr text = .ok found := by
  obtain ⟨reach, hrun⟩ := h Reach.start
  rw [parseExpr, readExpr, hrun]
  simp only [hend, List.isEmpty_nil, if_true, hshort]
  rfl

/-- An expression is read back from every text that it is written as. -/
theorem parseExpr_written {separator : String} (hseparator : separator = "," ∨ separator = ";")
    {e : Expr} (h : e.Grouped) {text : String}
    (hwritten : Written (e.lexemes separator) text.toList) :
    ∃ found, parseExpr text = .ok found ∧ found.unlocated = e.unlocated := by
  obtain ⟨found, later, hroot, hend, hrecovers⟩ := Grammar.gives_root hseparator h hwritten
  obtain ⟨reach, hrun⟩ := hroot Reach.start
  refine ⟨found, ?_, hrecovers.unlocated⟩
  rw [parseExpr, readExpr, hrun]
  simp only [hend, List.isEmpty_nil, if_true, hrecovers.overlong]
  rfl

/-- A name that begins with a keyword, a field without a key that is a name, and a power behind a
unary operator. -/
theorem parseExpr_written_methodCall :
    let power : Expr := .binary (.arithmetic .pow) (.literal (.number (.int 2)) none)
      (.literal (.number (.int 3)) none) none
    let fields : List (Option Expr × Expr) :=
      [(none, .variable "y" none), (some (.literal (.str "k") none), .unary .neg power none)]
    let e : Expr := .methodCall (.variable "android" none) "x" [.tableConstructor fields none] none
    let text := "android : x ( \x7b y , [ \"k\" ] = - 2 ^ 3 \x7d ) "
    e.Grouped ∧ Written (e.lexemes ",") text.toList ∧
      ∃ found, parseExpr text = .ok found ∧ found.unlocated = e.unlocated := by
  intro power fields e text
  have hint : ∀ n < 10, (Nat.toDigits 10 n).length ≤ digitLimit := by decide
  have hpower : power.Grouped :=
    .binary (by decide) (.int (hint 2 (by decide)) none) (.int (hint 3 (by decide)) none)
      (by decide) (by decide) none
  have hfields : Expr.Grouped (.tableConstructor fields none) := by
    refine .table ?_ ?_ none
    · rintro field hfield key hkey
      simp only [fields, List.mem_cons, List.not_mem_nil, or_false] at hfield
      rcases hfield with rfl | rfl
      · cases hkey
      · obtain rfl := Option.some.inj hkey
        exact .str "k" none
    · intro field hfield
      simp only [fields, List.mem_cons, List.not_mem_nil, or_false] at hfield
      rcases hfield with rfl | rfl
      · exact .name (by decide) none
      · exact .unary (.inr (.inl rfl)) hpower (by decide) none
  have hgrouped : e.Grouped :=
    .methodCall (.name (by decide) none) (by decide) (by decide)
      (List.forall_mem_singleton.mpr hfields) none
  have htext : spelled (e.lexemes ",") = text.toList := by decide
  have hwritten : Written (e.lexemes ",") text.toList := htext ▸ hgrouped.written_spelled (.inl rfl)
  exact ⟨hgrouped, hwritten, parseExpr_written (.inl rfl) hgrouped hwritten⟩

end TemplateScript
