import TemplateScript.Proofs.Expr.Balance
import TemplateScript.Proofs.Expr.Placement
import TemplateScript.Proofs.Expr.TokenRule

/-!
# Readers that lay out what they read

The parts that a reader reads are collected in the order of the text, so that a group, a table or a
list of arguments holds them in turn. A suffix, or an operator with the operand behind it, continues
whatever has been laid out up to it, and such continuations folded over a first expression lay out
the whole chain. Each of these is kept by the ways in which readers are put together.
-/

namespace TemplateScript

namespace Token

/-- A token does not begin with a character at which it is absent. -/
theorem Takes.begins {length : List Char → Nat} {texts : List Char → Prop} {p : Char → Prop}
    (h : Takes length texts) (habsent : AbsentAt length p) :
    Takes length fun text => ∀ c ∈ text.head?, ¬ p c := by
  intro source
  obtain ⟨text, after, hsource, hlength, -⟩ := h source
  refine ⟨text, after, hsource, hlength, fun c hhead hc => ?_⟩
  obtain ⟨rest, rfl⟩ := List.head?_eq_some_iff.mp hhead
  rw [hsource, List.cons_append, habsent c _ hc] at hlength
  cases hlength

end Token

namespace Reader

open TemplateScript.Expr (Laid LaidInTurn)

variable {α β : Type} {post : Position → List Char → α → Prop} {parts : α → List Expr}

/-! ### Texts and positions -/

/-- What is read, the text taken and the position at which it begins belong together. -/
abbrev Places (post : Position → List Char → α → Prop) (reader : Reader α) : Prop :=
  reader.Ensures fun cursor => post cursor.position

theorem Places.bind {reader : Reader α} {next : α → Reader β}
    {post' : α → Position → List Char → β → Prop} {posts : Position → List Char → β → Prop}
    (h : reader.Places post) (hnext : ∀ a, (next a).Places (post' a))
    (hjoin : ∀ position left right a b, post position left a →
      post' a (position.advance left) right b → posts position (left ++ right) b) :
    (reader >>= next).Places posts :=
  Ensures.bind h hnext fun _ _ _ _ _ _ hmoves hleft hright =>
    hjoin _ _ _ _ _ hleft (hmoves.position ▸ hright)

/-- A result that is made of what is read. -/
theorem Places.map {reader : Reader α} (h : reader.Places post) (make : α → β) :
    (do return make (← reader) : Reader β).Places fun position text b =>
      ∃ a, b = make a ∧ post position text a := by
  refine Ensures.bind h (fun a => ensures_pure (make a)) ?_
  rintro cursor _ left _ a _ - ha ⟨rfl, rfl⟩
  exact ⟨a, rfl, by rwa [List.append_nil]⟩

theorem places_after_get {next : Cursor → Reader β} {post : Position → List Char → β → Prop}
    (h : ∀ cursor, (next cursor).Places post) : (get >>= next).Places post := by
  have hget : (get : Reader Cursor).Places fun _ text _ => text = [] :=
    ensures_get.mono fun _ _ _ => And.left
  refine hget.bind h ?_
  rintro position _ right _ _ rfl hright
  exact hright

theorem Places.spaced {reader : Reader α} (h : reader.Places post) :
    (spaced reader).Places fun position text a => ∃ gap rest, text = gap ++ rest ∧ AreBlank gap ∧
      post (position.advance gap) rest a := by
  have hblanks : blanks.Places fun _ gap _ => AreBlank gap := ensures_blanks
  exact hblanks.bind (fun _ => h) fun _ gap rest _ _ hgap hrest => ⟨gap, rest, rfl, hgap, hrest⟩

theorem Places.located {reader : Reader α} (h : reader.Places post) (tag : String) :
    (located tag reader).Places fun position text found =>
      post position text found.1 ∧ found.2 = ⟨position, some tag, some (String.ofList text)⟩ :=
  Ensures.located h tag

theorem places_locatedToken {length : List Char → Nat} {texts : List Char → Prop}
    (h : Token.Takes length texts) (tag : String) :
    (locatedToken tag length).Places fun position text found =>
      found = (String.ofList text, ⟨position, some tag, some (String.ofList text)⟩) := by
  have htoken : (token length).Places fun _ text result => result = text :=
    (ensures_token h).mono fun _ _ _ hpost => hpost.2.1
  refine ((htoken.located tag).map fun found => (String.ofList found.1, found.2)).mono ?_
  rintro cursor text _ ⟨found, rfl, hresult, hloc⟩
  rw [hresult, hloc]

/-! ### Parts in turn -/

/-- Behind the parts that are there already, the reader adds those it reads, as they follow one
another in the text that it takes. -/
abbrev Adds (done : List Expr) (parts : α → List Expr) (reader : Reader α) : Prop :=
  reader.Places fun position text a => ∃ new, parts a = done ++ new ∧ LaidInTurn position text new

/-- The expression that is read is laid out in the text that the reader takes. -/
abbrev Lays (reader : Reader Expr) : Prop :=
  reader.Places fun position text e => e.Laid position text

variable {done : List Expr}

theorem Lays.adds {reader : Reader Expr} (h : reader.Lays) : reader.Adds [] fun e => [e] :=
  h.mono fun _ _ e hlaid => ⟨[e], rfl, hlaid.inTurn⟩

theorem adds_pure {a : α} (h : parts a = done) : (pure a : Reader α).Adds done parts := by
  refine (ensures_pure a).mono ?_
  rintro _ _ _ ⟨rfl, rfl⟩
  exact ⟨[], by rw [h, List.append_nil], .nil⟩

theorem Adds.bind {reader : Reader α} {next : α → Reader β} {parts' : β → List Expr}
    (h : reader.Adds [] parts) (hnext : ∀ a, (next a).Adds (done ++ parts a) parts') :
    (reader >>= next).Adds done parts' := by
  refine Places.bind h hnext ?_
  rintro position left right a b ⟨new, hnew, hleft⟩ ⟨more, hmore, hright⟩
  refine ⟨new ++ more, ?_, hleft.append hright⟩
  rw [hmore, hnew, List.nil_append, List.append_assoc]

theorem adds_none {reader : Reader α} {post : Cursor → List Char → α → Prop}
    (h : reader.Ensures post) : reader.Adds [] fun _ => [] :=
  h.mono fun _ _ _ _ => ⟨[], rfl, .nil⟩

/-- A reader in front that reads no parts does not matter. -/
theorem adds_after {reader : Reader α} {next : α → Reader β} {parts : β → List Expr}
    (h : reader.Adds [] fun _ => []) (hnext : ∀ a, (next a).Adds done parts) :
    (reader >>= next).Adds done parts :=
  h.bind fun a => by simpa only [List.append_nil] using hnext a

theorem Adds.orElse {first second : Reader α} (hfirst : first.Adds done parts)
    (hsecond : second.Adds done parts) : (first <|> second).Adds done parts :=
  Ensures.orElse hfirst hsecond

theorem Adds.spaced {reader : Reader α} (h : reader.Adds done parts) :
    (spaced reader).Adds done parts :=
  adds_after (adds_none ensures_blanks) fun _ => h

theorem Adds.manyUpTo {reader : Reader α} (h : reader.Adds [] parts) (limit : Nat) :
    (manyUpTo reader limit).Adds [] fun results => results.flatMap parts := by
  induction limit with
  | zero => exact adds_pure rfl
  | succ limit ih =>
      exact .orElse (h.bind fun _ => ih.bind fun _ => adds_pure rfl) (adds_pure rfl)

theorem Adds.many {reader : Reader α} (h : reader.Adds [] parts) :
    (many reader).Adds [] fun results => results.flatMap parts :=
  adds_after (adds_none ensures_get) fun cursor => h.manyUpTo cursor.rest.length

/-! ### Nodes at all of their text -/

theorem Adds.lays_located {reader : Reader α} (h : reader.Adds [] parts) (tag : String)
    {make : α × Location → Expr}
    (hmake : ∀ a loc, (make (a, loc)).IsWhole (parts a) loc) :
    (do return make (← located tag reader) : Reader Expr).Lays := by
  refine ((Places.located h tag).map make).mono ?_
  rintro cursor text _ ⟨⟨a, _⟩, rfl, ⟨_, rfl, hlaid⟩, rfl⟩
  exact (hmake a _).laid hlaid

theorem lays_locatedToken {length : List Char → Nat} {texts : List Char → Prop}
    (h : Token.Takes length texts) (tag : String) {make : String × Location → Expr}
    (hmake : ∀ spelling loc, (make (spelling, loc)).IsWhole [] loc) :
    (do return make (← locatedToken tag length) : Reader Expr).Lays := by
  refine ((places_locatedToken h tag).map make).mono ?_
  rintro cursor text _ ⟨_, rfl, rfl⟩
  exact (hmake _ _).laid .nil

/-! ### Continuations -/

/-- What is made of an expression that is laid out up to a position is laid out up to the end of the
text that begins there. -/
def Continues (position : Position) (text : List Char) (make : Expr → Expr) : Prop :=
  ∀ start before e, start.advance before = position → e.Laid start before →
    (make e).Laid start (before ++ text)

theorem Continues.comp {make next : Expr → Expr} {position : Position} {left right : List Char}
    (hmake : Continues position left make) (hnext : Continues (position.advance left) right next) :
    Continues position (left ++ right) fun e => next (make e) := by
  intro start before e hstart he
  rw [← List.append_assoc]
  refine hnext start (before ++ left) (make e) ?_ (hmake start before e hstart he)
  rw [Position.advance_append, hstart]

theorem places_pure_continues {a : α} {make : α → Expr → Expr} (h : ∀ e, make a e = e) :
    (pure a : Reader α).Places fun position text a => Continues position text (make a) := by
  refine (ensures_pure a).mono ?_
  rintro _ _ _ ⟨rfl, rfl⟩ start before e _ he
  rwa [List.append_nil, h]

/-- Steps that each continue an expression continue it together. -/
theorem places_manyUpTo {step : Expr → α → Expr} {reader : Reader α}
    (h : reader.Places fun position text a => Continues position text (step · a)) (limit : Nat) :
    (manyUpTo reader limit).Places fun position text results =>
      Continues position text fun e => results.foldl step e := by
  have hnone : (pure [] : Reader (List α)).Places fun position text results =>
      Continues position text fun e => results.foldl step e :=
    places_pure_continues fun _ => rfl
  induction limit with
  | zero => exact hnone
  | succ limit ih =>
      have hsome : (do
          let first ← reader
          let rest ← manyUpTo reader limit
          return first :: rest : Reader (List α)).Places fun position text results =>
            Continues position text fun e => results.foldl step e := by
        refine Places.bind h (fun first => ih.map (first :: ·)) ?_
        rintro position left right first _ hfirst ⟨rest, rfl, hrest⟩
        exact hfirst.comp hrest
      exact hsome.orElse hnone

theorem places_many {step : Expr → α → Expr} {reader : Reader α}
    (h : reader.Places fun position text a => Continues position text (step · a)) :
    (many reader).Places fun position text results =>
      Continues position text fun e => results.foldl step e :=
  places_after_get fun cursor => places_manyUpTo h cursor.rest.length

/-- What continues the expression that is read first completes it. -/
theorem lays_continued {operand : Reader Expr} {next : Reader α} {make : α → Expr → Expr}
    (hoperand : operand.Lays)
    (hnext : next.Places fun position text a => Continues position text (make a)) :
    (do
      let e ← operand
      let a ← next
      return make a e : Reader Expr).Lays := by
  refine Places.bind hoperand (fun e => Places.map hnext fun a => make a e) ?_
  rintro position left right e _ he ⟨a, rfl, ha⟩
  exact ha position left e rfl he

/-! ### First characters -/

/-- The text that the reader takes begins with one of the signs. -/
abbrev Begins (signs : List Char) (reader : Reader α) : Prop :=
  reader.Ensures fun _ text _ => BeginsWith signs text

/-- The parts that are read are laid out in turn in a text that begins with one of the signs. -/
abbrev Opens (signs : List Char) (parts : α → List Expr) (reader : Reader α) : Prop :=
  reader.Places fun position text a => LaidInTurn position text (parts a) ∧ BeginsWith signs text

variable {signs signs' : List Char}

theorem begins_token {length : List Char → Nat}
    (h : Token.Takes length fun text => ∀ c ∈ text.head?, c ∈ signs) :
    (token length).Begins signs := by
  refine (ensures_token h).mono ?_
  rintro _ text _ ⟨hsigns, -, hne⟩
  obtain ⟨c, rest, rfl⟩ := List.exists_cons_of_ne_nil hne
  exact ⟨c, hsigns c rfl, rfl⟩

theorem Begins.bind {reader : Reader α} {next : α → Reader β}
    {post : α → Cursor → List Char → β → Prop} (h : reader.Begins signs)
    (hnext : ∀ a, (next a).Ensures (post a)) : (reader >>= next).Begins signs :=
  Ensures.bind h hnext fun _ _ _ right _ _ _ hleft _ => hleft.append right

theorem Begins.located {reader : Reader α} (h : reader.Begins signs) (tag : String) :
    (located tag reader).Begins signs :=
  (Ensures.located h tag).mono fun _ _ _ => And.left

theorem Opens.adds {reader : Reader α} (h : reader.Opens signs parts) : reader.Adds [] parts :=
  h.mono fun _ _ a hpost => ⟨parts a, rfl, hpost.1⟩

theorem Opens.begins {reader : Reader α} (h : reader.Opens signs parts) : reader.Begins signs :=
  h.mono fun _ _ _ => And.right

theorem Opens.mono {reader : Reader α} (h : reader.Opens signs parts)
    (hsigns : ∀ sign ∈ signs, sign ∈ signs') : reader.Opens signs' parts :=
  Ensures.mono h fun _ _ _ hpost => hpost.imp_right fun ⟨sign, hsign, hhead⟩ =>
    ⟨sign, hsigns sign hsign, hhead⟩

theorem Opens.orElse {first second : Reader α} (hfirst : first.Opens signs parts)
    (hsecond : second.Opens signs parts) : (first <|> second).Opens signs parts :=
  Ensures.orElse hfirst hsecond

theorem Begins.opens {reader : Reader α} {next : α → Reader β} {parts : β → List Expr}
    (h : reader.Begins signs) (hnext : ∀ a, (next a).Adds [] parts) :
    (reader >>= next).Opens signs parts := by
  have hfirst : reader.Places fun _ text _ => BeginsWith signs text := h
  refine hfirst.bind hnext ?_
  rintro position left right _ b hleft ⟨_, rfl, hright⟩
  exact ⟨hright.behind, hleft.append right⟩

theorem Lays.opens {reader : Reader Expr} (h : reader.Lays) (hbegins : reader.Begins signs) :
    (do return [← reader] : Reader (List Expr)).Opens signs fun args => args := by
  have hboth : reader.Places fun position text e =>
      e.Laid position text ∧ BeginsWith signs text := h.and hbegins
  refine (hboth.map fun e => [e]).mono ?_
  rintro _ _ _ ⟨e, rfl, hlaid, hsign⟩
  exact ⟨hlaid.inTurn, hsign⟩

/-! ### Suffixes and operators -/

/-- Behind an expression and blanks, the suffix is laid out in a text that begins at a position. -/
def Attaches (position : Position) (shown : List Char) (suffix : Suffix) : Prop :=
  ∀ start before gap obj, start.advance (before ++ gap) = position → AreBlank gap →
    obj.Laid start before → (suffix.apply obj).Laid start (before ++ gap ++ shown)

theorem Opens.attaches_located {reader : Reader α} (h : reader.Opens signs parts) (tag : String)
    {make : α × Location → Suffix}
    (hmake : ∀ a loc obj, ((make (a, loc)).apply obj).suffix? = some (obj, signs, parts a) ∧
      ((make (a, loc)).apply obj).loc = some loc) :
    (do return make (← located tag reader) : Reader Suffix).Places Attaches := by
  refine ((Places.located h tag).map make).mono ?_
  rintro cursor shown _ ⟨⟨a, _⟩, rfl, ⟨hparts, hbegins⟩, rfl⟩
  generalize cursor.position = position at *
  rintro start before gap obj rfl hgap hobj
  obtain ⟨hsuffix, hloc⟩ := hmake a _ obj
  exact .behind hsuffix hobj hgap ⟨_, hloc⟩ hbegins hparts

theorem places_spaced_suffix {reader : Reader Suffix}
    (h : reader.Places Attaches) :
    (spaced reader).Places fun position text suffix =>
      Continues position text (Suffix.apply · suffix) := by
  refine (Places.spaced h).mono ?_
  rintro cursor _ suffix ⟨gap, shown, rfl, hgap, hattaches⟩ start before obj hstart hobj
  rw [← List.append_assoc]
  refine hattaches start before gap obj ?_ hgap hobj
  rw [Position.advance_append, hstart]

/-- An operator at its token and the operand behind it continue the operand in front. -/
theorem places_operatorTail {operator : List Char → Nat} {texts : List Char → Prop}
    {operand : Reader Expr} (hoperator : Token.Takes operator texts) (hoperand : operand.Lays)
    (tag : String) {make : String × Location → Expr → Expr → Expr}
    (hmake : ∀ spelling loc left right,
      (make (spelling, loc) right left).operator? = some (spelling, left, right) ∧
        (make (spelling, loc) right left).loc = some loc) :
    (do
      let found ← spaced (locatedToken tag operator)
      let right ← spaced operand
      return make found right : Reader (Expr → Expr)).Places Continues := by
  refine Places.bind (places_locatedToken hoperator tag).spaced
    (fun found => Places.map (Places.spaced hoperand) (make found)) ?_
  rintro position _ _ _ _ ⟨gap, shown, rfl, hgap, rfl⟩ ⟨right, rfl, gap', after, rfl, hgap', hright⟩
    start before left rfl hleft
  obtain ⟨op, rfl⟩ : ∃ op : String, shown = op.toList :=
    ⟨String.ofList shown, String.toList_ofList.symm⟩
  simp only [String.ofList_toList, ← Position.advance_append] at hright ⊢
  obtain ⟨hoperator, hloc⟩ := hmake op ⟨start.advance (before ++ gap), some tag, some op⟩ left right
  have hpoints :
      Expr.PointsAt (start.advance (before ++ gap)) op.toList (make (op, _) right left) :=
    ⟨some tag, by rw [String.ofList_toList]; exact hloc⟩
  have hafter : right.Laid (start.advance (before ++ gap ++ op.toList ++ gap')) after := by
    simpa only [List.append_assoc] using hright
  simpa only [List.append_assoc] using Laid.between hoperator hleft hgap hpoints hgap' hafter

end Reader

end TemplateScript
