/-
  SerialNumbers.Proofs.Pattern.Matcher

  The shape of a pattern against the numbers that the pattern gives.  Evaluation
  puts texts into the text that is left of the conditionals; the shape is made
  segment by segment, with both branches of every conditional.  Where segments
  close their own braces the two run side by side (`Template.matches_substitute`).
  Main statement: the numbers of a pattern that is found valid, and the numbers
  that are issued, are accepted (`Issuer.accepts_numbers`).
-/
import SerialNumbers.Proofs.Concurrency.Numbers
import SerialNumbers.Proofs.Numbering.Run
import SerialNumbers.Proofs.Pattern.Segment
import SerialNumbers.Proofs.Time.Epoch
import SerialNumbers.Proofs.Variable.Shape

namespace SerialNumbers

open Pattern Shape Text Time

namespace Pattern

variable {shapeOf : Token → Except Failure Shape} {text : Token → Except Failure (List Char)}

/-! ## Pieces -/

/-- Whatever is put in for a token has the shape of the token. -/
def Agree (shapeOf : Token → Except Failure Shape) (text : Token → Except Failure (List Char))
    (token : Token) : Prop :=
  ∀ out, text token = .ok out → ∃ shape, shapeOf token = .ok shape ∧ Matches shape out

theorem substitute_append {ps qs : List Piece} {out : List Char}
    (h : substitute text (ps ++ qs) = .ok out) :
    ∃ first second, substitute text ps = .ok first ∧ substitute text qs = .ok second ∧
      out = first ++ second := by
  induction ps generalizing out with
  | nil => exact ⟨[], out, rfl, h, rfl⟩
  | cons p ps ih =>
    cases p with
    | char c =>
      obtain ⟨more, hmore, h⟩ := Except.bind_eq_ok.mp h
      obtain ⟨first, second, hfirst, hsecond, rfl⟩ := ih hmore
      refine ⟨c :: first, second, ?_, hsecond, (Except.ok.inj h).symm⟩
      unfold substitute
      rw [hfirst]
      rfl
    | token t =>
      obtain ⟨put, hput, h⟩ := Except.bind_eq_ok.mp h
      obtain ⟨more, hmore, h⟩ := Except.bind_eq_ok.mp h
      obtain ⟨first, second, hfirst, hsecond, rfl⟩ := ih hmore
      refine ⟨put ++ first, second, ?_, hsecond, ?_⟩
      · unfold substitute
        rw [hput, hfirst]
        rfl
      · rw [← Except.ok.inj h, List.append_assoc]

theorem matches_literalShape (run : List Char) :
    ∃ texts, List.Forall₂ Matches (literalShape run) texts ∧ texts.flatten = run := by
  unfold literalShape
  split
  · rename_i hempty
    exact ⟨[], .nil, (List.isEmpty_iff.mp hempty).symm⟩
  · exact ⟨[run], .cons (.literal run) .nil, List.append_nil run⟩

/-- Piece by piece, what is put in has the shapes. -/
theorem matches_pieceShapes {ps : List Piece} (run : List Char)
    (hagree : ∀ token, .token token ∈ ps → Agree shapeOf text token) {out : List Char}
    (h : substitute text ps = .ok out) :
    ∃ shapes texts, pieceShapes shapeOf run ps = .ok shapes ∧
      List.Forall₂ Matches shapes texts ∧ texts.flatten = run ++ out := by
  induction ps generalizing run out with
  | nil =>
    cases h
    obtain ⟨texts, htexts, hflatten⟩ := matches_literalShape run
    exact ⟨_, texts, rfl, htexts, by rw [hflatten, List.append_nil]⟩
  | cons p ps ih =>
    have hagree' (token) (htoken : .token token ∈ ps) :=
      hagree token (List.mem_cons_of_mem _ htoken)
    cases p with
    | char c =>
      obtain ⟨more, hmore, h⟩ := Except.bind_eq_ok.mp h
      obtain ⟨shapes, texts, hshapes, htexts, hflatten⟩ := ih (run ++ [c]) hagree' hmore
      refine ⟨shapes, texts, hshapes, htexts, ?_⟩
      rw [hflatten, ← Except.ok.inj h, List.append_assoc]
      rfl
    | token t =>
      obtain ⟨put, hput, h⟩ := Except.bind_eq_ok.mp h
      obtain ⟨more, hmore, h⟩ := Except.bind_eq_ok.mp h
      obtain ⟨shape, hshape, hmatches⟩ :=
        hagree t List.mem_cons_self put hput
      obtain ⟨shapes, texts, hshapes, htexts, hflatten⟩ := ih [] hagree' hmore
      obtain ⟨before, hbefore, hrun⟩ := matches_literalShape run
      refine ⟨literalShape run ++ shape :: shapes, before ++ put :: texts, ?_,
        List.rel_append hbefore (.cons hmatches htexts), ?_⟩
      · unfold pieceShapes
        rw [hshape, Except.ok_bind, hshapes]
        rfl
      · rw [List.flatten_append, List.flatten_cons, hrun, hflatten, ← Except.ok.inj h]
        rfl

/-- A text with its tokens replaced has the shape of the text. -/
theorem matches_textShape {cs out : List Char}
    (hagree : ∀ token ∈ tokens cs, Agree shapeOf text token)
    (h : substitute text (pieces cs) = .ok out) :
    ∃ shape, textShape shapeOf cs = .ok shape ∧ Matches shape out := by
  obtain ⟨shapes, texts, hshapes, htexts, hflatten⟩ :=
    matches_pieceShapes [] (fun token htoken => hagree token (mem_tokens htoken)) h
  refine ⟨seqAll shapes, ?_, ?_⟩
  · unfold textShape
    rw [hshapes]
    rfl
  · rw [← hflatten.trans (List.nil_append out)]
    exact matches_seqAll htexts

theorem exists_pieceShapes {ps : List Piece} (run : List Char)
    (h : ∀ token, .token token ∈ ps → ∃ shape, shapeOf token = .ok shape) :
    ∃ shapes, pieceShapes shapeOf run ps = .ok shapes := by
  induction ps generalizing run with
  | nil => exact ⟨_, rfl⟩
  | cons p ps ih =>
    have hrest (token) (htoken : .token token ∈ ps) := h token (List.mem_cons_of_mem _ htoken)
    cases p with
    | char c => exact ih (run ++ [c]) hrest
    | token t =>
      obtain ⟨shape, hshape⟩ := h t List.mem_cons_self
      obtain ⟨shapes, hshapes⟩ := ih [] hrest
      refine ⟨literalShape run ++ shape :: shapes, ?_⟩
      unfold pieceShapes
      rw [hshape, Except.ok_bind, hshapes]
      rfl

/-- A text has a shape if its tokens have. -/
theorem exists_textShape {cs : List Char}
    (h : ∀ token ∈ tokens cs, ∃ shape, shapeOf token = .ok shape) :
    ∃ shape, textShape shapeOf cs = .ok shape := by
  obtain ⟨shapes, hshapes⟩ :=
    exists_pieceShapes [] fun token htoken => h token (mem_tokens htoken)
  refine ⟨seqAll shapes, ?_⟩
  unfold textShape
  rw [hshapes]
  rfl

/-! ## Segments -/

/-- What a segment expands to has the shape of the segment, once its tokens are replaced: literal
    text its own, a branch one of two. -/
theorem matches_segmentShape {segment : Segment} {lookup : String → Except Failure (Option String)}
    {expanded out : List Char}
    (hread : ∀ c, segment = .conditional c →
      ∃ choice, c.read.1 = some choice ∧ c.checked = .ok choice)
    (hshapes : ∀ text ∈ Template.tokenTexts segment, ∀ token ∈ tokens text,
      ∃ shape, shapeOf token = .ok shape)
    (hexpand : Template.expandSegment lookup segment = .ok expanded)
    (hagree : ∀ token ∈ tokens expanded, Agree shapeOf text token)
    (h : substitute text (pieces expanded) = .ok out) :
    ∃ shape, segmentShape shapeOf segment = .ok shape ∧ Matches shape out := by
  cases segment with
  | literal literal =>
    cases hexpand
    exact matches_textShape hagree h
  | conditional c =>
    obtain ⟨choice, hchoice, hchecked⟩ := hread c rfl
    obtain ⟨choice', hchecked', hexpand⟩ := Except.bind_eq_ok.mp hexpand
    cases hchecked.symm.trans hchecked'
    obtain ⟨value, -, hexpand⟩ := Except.bind_eq_ok.mp hexpand
    have hbranch : choice.branch (choice.condition.holds value) = expanded := Except.ok.inj hexpand
    unfold Template.tokenTexts at hshapes
    dsimp only at hshapes
    rw [hchoice] at hshapes
    obtain ⟨whenTrue, hwhenTrue⟩ := exists_textShape (hshapes _ List.mem_cons_self)
    obtain ⟨whenFalse, hwhenFalse⟩ :=
      exists_textShape (hshapes _ (List.mem_cons_of_mem _ List.mem_cons_self))
    obtain ⟨shape, hshape, hmatches⟩ := matches_textShape hagree h
    refine ⟨.group (.either whenTrue whenFalse), ?_, .group ?_⟩
    · unfold segmentShape
      dsimp only
      rw [hchecked, Except.ok_bind, hwhenTrue, Except.ok_bind, hwhenFalse]
      rfl
    · rw [← hbranch] at hshape
      cases hholds : choice.condition.holds value with
      | true =>
        rw [hholds] at hshape
        cases hwhenTrue.symm.trans hshape
        exact .first hmatches
      | false =>
        rw [hholds] at hshape
        cases hwhenFalse.symm.trans hshape
        exact .second hmatches

end Pattern

namespace Template

variable {shapeOf : Token → Except Failure Shape} {text : Token → Except Failure (List Char)}
  {lookup : String → Except Failure (Option String)}

/-- Segment by segment, what a template expands to has the shapes, once its tokens are replaced. -/
theorem matches_substitute {segments : List Segment} {expanded out : List Char}
    (hread : ∀ c, .conditional c ∈ segments →
      ∃ choice, c.read.1 = some choice ∧ c.checked = .ok choice)
    (hbalanced : ∀ text ∈ segments.flatMap tokenTexts, isBalanced text = true)
    (hshapes : ∀ text ∈ segments.flatMap tokenTexts, ∀ token ∈ tokens text,
      ∃ shape, shapeOf token = .ok shape)
    (hexpand : expandAll lookup segments = .ok expanded)
    (hagree : ∀ token ∈ tokens expanded, Agree shapeOf text token)
    (h : substitute text (pieces expanded) = .ok out) :
    ∃ shapes texts, segments.mapM (segmentShape shapeOf) = .ok shapes ∧
      List.Forall₂ Matches shapes texts ∧ texts.flatten = out := by
  induction segments generalizing expanded out with
  | nil =>
    cases hexpand
    unfold pieces at h
    cases h
    exact ⟨[], [], rfl, .nil, rfl⟩
  | cons segment segments ih =>
    obtain ⟨first, hfirst, hexpand⟩ := Except.bind_eq_ok.mp hexpand
    obtain ⟨more, hmore, hexpand⟩ := Except.bind_eq_ok.mp hexpand
    cases hexpand
    have hreadFirst (c) (hc : segment = .conditional c) := hread c (hc ▸ List.mem_cons_self)
    rw [List.flatMap_cons] at hbalanced hshapes
    -- The first segment closes its braces, so that the rest is read by itself.
    have hclosed : isBalanced first = true :=
      hbalanced first (List.mem_append_left _ (mem_tokenTexts_of_expandSegment hreadFirst hfirst))
    rw [pieces_append hclosed] at h
    rw [tokens_append hclosed] at hagree
    obtain ⟨outFirst, outMore, hsubFirst, hsubMore, rfl⟩ := substitute_append h
    obtain ⟨shape, hshape, hmatches⟩ := matches_segmentShape hreadFirst
      (fun text htext => hshapes text (List.mem_append_left _ htext)) hfirst
      (fun token htoken => hagree token (List.mem_append_left _ htoken)) hsubFirst
    obtain ⟨shapes, texts, hmapM, htexts, hflatten⟩ :=
      ih (fun c hc => hread c (List.mem_cons_of_mem _ hc))
        (fun text htext => hbalanced text (List.mem_append_right _ htext))
        (fun text htext => hshapes text (List.mem_append_right _ htext)) hmore
        (fun token htoken => hagree token (List.mem_append_right _ htoken)) hsubMore
    refine ⟨shape :: shapes, outFirst :: texts, ?_, .cons hmatches htexts, ?_⟩
    · rw [List.mapM_cons, hshape, Except.ok_bind, hmapM]
      rfl
    · rw [List.flatten_cons, hflatten]

/-- No text that is put in for a variable of the context or a registered one has a line end. -/
def InsertsNoLineEnd (t : Template) (s : Scope) : Prop :=
  ∀ expanded, t.expand s.lookup = .ok expanded → ∀ token ∈ tokens expanded,
    Builtin.isReserved token.name = false →
      ∀ text, s.resolve token = .ok text → '\n' ∉ text.toList

instance (t : Template) (s : Scope) : Decidable (t.InsertsNoLineEnd s) :=
  decidable_of_iff (∀ expanded ∈ (t.expand s.lookup).toOption, ∀ token ∈ tokens expanded,
      Builtin.isReserved token.name = false →
        ∀ text ∈ (s.resolve token).toOption, '\n' ∉ text.toList)
    ⟨fun h expanded hexpand token htoken hfree text htext =>
      h expanded (congrArg Except.toOption hexpand) token htoken hfree text
        (congrArg Except.toOption htext),
    fun h expanded hexpand token htoken hfree text htext =>
      h expanded (Except.eq_ok_of_toOption hexpand) token htoken hfree text
        (Except.eq_ok_of_toOption htext)⟩

/-- What a template evaluates to has the shape of the template. -/
theorem matches_evaluate {t : Template} {r : Registry} (hr : r.Undeclared) (ht : r.Passes t)
    (hbalanced : t.SegmentBalanced) {c : Context} {o : Occasion} (ho : o.Ordinary)
    (hplain : t.InsertsNoLineEnd (Scope.of r c o)) {text : String}
    (h : t.evaluate (Scope.of r c o) = .ok text) :
    ∃ shape, t.shape r o.padding = .ok shape ∧ Matches shape text.toList := by
  obtain ⟨expanded, hexpand, h⟩ := Except.bind_eq_ok.mp h
  obtain ⟨out, hout, h⟩ := Except.bind_eq_ok.mp h
  cases h
  have hplain := hplain expanded hexpand
  unfold expand at hexpand
  rw [ht.closed] at hexpand
  have hagree (token : Token) (htoken : token ∈ tokens expanded) : Agree (r.shape o.padding)
      (fun token => do return (← (Scope.of r c o).resolve token).toList) token := by
    intro out hout
    obtain ⟨put, hput, hout⟩ := Except.bind_eq_ok.mp hout
    cases hout
    exact Scope.matches_shape hr ho hput fun hfree => hplain token htoken hfree put hput
  obtain ⟨shapes, texts, hmapM, htexts, hflatten⟩ := matches_substitute ht.readable hbalanced
    (fun text htext token htoken => Registry.exists_shape hr o.padding (ht.admits htext htoken))
    hexpand hagree hout
  refine ⟨seqAll shapes, ?_, ?_⟩
  · unfold Template.shape
    rw [hmapM]
    rfl
  · rw [String.toList_ofList, ← hflatten]
    exact matches_seqAll htexts

end Template

/-! ## Numbers -/

theorem Occasion.ordinary_of_at {moment : Moment} {counter padding : Int} {o : Occasion}
    (hrange : Moment.inRange moment.reading = true) (hepoch : Moment.epochReading ≤ moment.instant)
    (hcounter : 0 ≤ counter) (hpadding : 0 ≤ padding)
    (h : Occasion.at moment counter padding = .ok o) : o.Ordinary ∧ o.padding = padding := by
  obtain ⟨hseconds, rfl, rfl, rfl⟩ := Occasion.at_eq_ok.mp h
  exact ⟨⟨hrange, Moment.isNegative_epochSeconds hepoch hseconds, hcounter, hpadding⟩, rfl⟩

namespace Registry

variable {r : Registry} {pattern text : String} {t : Template} {c : Context} {moment : Moment}
  {counter padding : Int} {s : Scope}

/-- What a valid pattern evaluates to is accepted. -/
theorem isMatch_of_evaluate (hr : r.Undeclared) {found : Findings}
    (hcheck : r.checkSyntax pattern = .ok found) (hvalid : found.isValid = true)
    (hparse : Template.parse pattern = .ok t) (hbalanced : t.SegmentBalanced)
    (hrange : Moment.inRange moment.reading = true) (hepoch : Moment.epochReading ≤ moment.instant)
    (hcounter : 0 ≤ counter) (hpadding : 0 ≤ padding)
    (hscope : Scope.forMoment r c moment counter padding = .ok s) (hplain : t.InsertsNoLineEnd s)
    (h : t.evaluate s = .ok text) : r.isMatch pattern text padding = .ok true := by
  obtain ⟨t', hparse', ht⟩ := checkSyntax_passes hcheck hvalid
  cases hparse.symm.trans hparse'
  obtain ⟨o, ho, hscope⟩ := Except.bind_eq_ok.mp hscope
  cases hscope
  obtain ⟨hordinary, hsame⟩ := Occasion.ordinary_of_at hrange hepoch hcounter hpadding ho
  obtain ⟨shape, hshape, hmatches⟩ :=
    Template.matches_evaluate hr ht hbalanced hordinary hplain h
  rw [hsame] at hshape
  unfold isMatch patternShape
  rw [hparse, Except.ok_bind, hshape, Except.ok_bind, accepts_of_matches hmatches]
  rfl

end Registry

namespace Issuer

/-- A number that is rendered for a row with the row's own template is accepted for the row. -/
theorem accepts_of_render {i : Issuer} (hr : i.registry.Undeclared) {t : Template} {row : Sequence}
    {counter : Int} {c : Context} {now : Moment} {number : String}
    (ht : i.checkedTemplate row.pattern = .ok t) (hbalanced : t.SegmentBalanced)
    (hepoch : Moment.epochReading ≤ now.instant) (hcounter : 0 ≤ counter)
    (hpadding : 0 ≤ row.padding)
    (hplain : ∀ here s, now.inZone i.zone = .ok here →
      Scope.forMoment i.registry c here counter row.padding = .ok s → t.InsertsNoLineEnd s)
    (h : i.render t row counter c now = .ok number) : i.accepts row number = .ok true := by
  obtain ⟨found, hcheck, hvalid, hparse⟩ := valid_of_checkedTemplate ht
  obtain ⟨here, s, hhere, hs, htext, -⟩ := evaluate_of_render h
  have hmatch := Registry.isMatch_of_evaluate hr hcheck hvalid hparse hbalanced
    (Moment.inZone_eq_ok hhere).2 (Moment.epochReading_le_of_inZone hepoch hhere) hcounter hpadding
    hs (hplain here s hhere hs) htext
  unfold accepts
  rw [hmatch]

/-- What a valid pattern evaluates to is accepted for the pattern, and what is issued of a row is
    accepted for the row: where the registered variables declare no expressions, the segments of
    the pattern close their braces, and no text is put in that has a line end. -/
theorem accepts_numbers {i : Issuer} (hr : i.registry.Undeclared) :
    (∀ (pattern text : String) (found : Findings) (t : Template) (c : Context) (moment : Moment)
        (counter padding : Int) (s : Scope),
      i.registry.checkSyntax pattern = .ok found → found.isValid = true →
      Template.parse pattern = .ok t → t.SegmentBalanced →
      Moment.inRange moment.reading = true → Moment.epochReading ≤ moment.instant →
      0 ≤ counter → 0 ≤ padding →
      Scope.forMoment i.registry c moment counter padding = .ok s → t.InsertsNoLineEnd s →
      t.evaluate s = .ok text → i.registry.isMatch pattern text padding = .ok true) ∧
    ∀ (store : Store) (handle row : Sequence) (c : Context) (causer : Value) (now : Option Moment)
        (t : Template) (issued : Issued),
      store.row? handle.key = some row → row.Valid →
      Template.parse row.pattern = .ok t → t.SegmentBalanced →
      Moment.epochReading ≤ (now.getD store.clock).instant →
      (∀ here s, (now.getD store.clock).inZone i.zone = .ok here →
        Scope.forMoment i.registry c here issued.counter row.padding = .ok s →
          t.InsertsNoLineEnd s) →
      (i.generate handle c causer now store).1 = .ok issued →
        i.accepts row issued.number = .ok true := by
  refine ⟨fun pattern text found t c moment counter padding s hcheck hvalid hparse hbalanced hrange
    hepoch hcounter hpadding hscope hplain h => Registry.isMatch_of_evaluate hr hcheck hvalid hparse
      hbalanced hrange hepoch hcounter hpadding hscope hplain h, ?_⟩
  intro store handle row c causer now t answer hrow hvalid hparse hbalanced hepoch hplain h
  rcases i.generate_effect handle c causer now store with
    ⟨failure, herr, -⟩ | ⟨opened, reason, number, done, hopened, hissues, -, hans, -⟩
  · rw [herr] at h
    cases h
  · cases hrow.symm.trans hopened
    rw [hans] at h
    cases h
    obtain ⟨t', ht', hrender⟩ := hissues.made
    cases hparse.symm.trans (checkedTemplate_eq_ok ht')
    -- The row that the number is rendered for differs in its counter, not in its rules.
    have hrules := hissues.sameRules
    have hdone : done.row.Valid := by
      rw [hissues.row]
      exact (hvalid.readied reason _).counted _
    have haccepts : i.accepts done.row number = .ok true := by
      refine accepts_of_render hr ?_ hbalanced hepoch hdone.current hdone.padding.1 ?_ hrender
      · rw [hrules.pattern]
        exact ht'
      · rw [hrules.padding]
        exact hplain
    unfold accepts at haccepts ⊢
    rw [hrules.pattern, hrules.padding] at haccepts
    exact haccepts

/-- A conditional around a registered variable, named formats of the engine, a width and values of
    the context; the pattern is evaluated for a counter that is wider than its padding, and the
    first number is issued. -/
theorem accepts_numbers_mixed :
    let region := Variable.plain "REGION" "" ["region"] [] ["SHORT"] none
      (Variable.fromKey "region")
    let i : Issuer := ⟨⟨⟨[("REGION", region)]⟩⟩, .utc⟩
    let pattern := "\x7b?TIER=VIP?V\x7bREGION:SHORT\x7d:\x7bCLIENT:6\x7d\x7d-\x7bYEAR:2\x7d" ++
      "\x7bMONTH:MON\x7d-\x7bDAY:ST\x7d-\x7bWEEK:WEEK\x7d-\x7bTIMESTAMP\x7d-" ++
      "\x7bCLIENT:UPPER\x7d-\x7bCOUNTER\x7d"
    let c := Context.ofPairs
      [("region", .text "eu"), ("CLIENT", .text "4b2"), ("TIER", .text "VIP")]
    let moment : Moment := ⟨Moment.midnight ⟨2024, 1, 1⟩, some .utc, false⟩
    let row : Sequence := ⟨none, "acme", "invoices", pattern, .never, none, 5, 1, 0, none, 0, [],
      moment, moment⟩
    let stored := Operation.stored (.new .memory 5000 moment) row
    let store := ((Operation.insert row).run i (.new .memory 5000 moment)).2
    i.registry.Undeclared ∧
      i.registry.isMatch pattern "VEU-24Jan-1st-Week 1-1704067200-4B2-123456" 5 = .ok true ∧
      ∃ issued, (i.generate stored c .none none store).1 = .ok issued ∧
        issued.number = "VEU-24Jan-1st-Week 1-1704067200-4B2-00001" ∧
        i.accepts stored issued.number = .ok true := by
  intro region i pattern c moment row stored store
  have hr : i.registry.Undeclared := Registry.undeclared_of_entries (by decide)
  let t : Template := ⟨pattern, (segments pattern.toList).1, (segments pattern.toList).2⟩
  have hcheck : i.registry.checkSyntax pattern = .ok Findings.none := by decide +kernel
  have hparse : Template.parse pattern = .ok t := by decide +kernel
  have hbalanced : t.SegmentBalanced := by decide +kernel
  have hrow : stored.Valid := by
    refine ⟨by decide, by decide, by decide +kernel, ?_, by decide, by decide, by decide, by decide⟩
    rintro n ⟨⟩
  obtain ⟨haccepts, hissues⟩ := accepts_numbers hr
  refine ⟨hr, ?_, ?_⟩
  · have hscope : (Scope.forMoment i.registry c moment 123456 5).toOption.map (fun s =>
        (decide (t.InsertsNoLineEnd s), (t.evaluate s).toOption)) =
        some (true, some "VEU-24Jan-1st-Week 1-1704067200-4B2-123456") := by decide +kernel
    obtain ⟨s, hs, hfields⟩ := Option.map_eq_some_iff.mp hscope
    obtain ⟨hplain, htext⟩ := Prod.mk.inj hfields
    exact haccepts pattern _ Findings.none t c moment 123456 5 s hcheck rfl hparse hbalanced
      (by decide +kernel) (by decide +kernel) (by decide) (by decide)
      (Except.eq_ok_of_toOption hs) (of_decide_eq_true hplain) (Except.eq_ok_of_toOption htext)
  · have hnumber : (i.generate stored c .none none store).1.toOption.map (fun issued =>
        (issued.number, issued.counter)) =
        some ("VEU-24Jan-1st-Week 1-1704067200-4B2-00001", 1) := by decide +kernel
    obtain ⟨issued, hissued, hfields⟩ := Option.map_eq_some_iff.mp hnumber
    obtain ⟨hnumber, hcounter⟩ := Prod.mk.inj hfields
    have hissued := Except.eq_ok_of_toOption hissued
    refine ⟨issued, hissued, hnumber, hissues store stored stored c .none none t issued rfl hrow
      hparse hbalanced (by decide +kernel) ?_ hissued⟩
    rw [hcounter]
    intro here s hhere hs
    have hplain : (do
        let here ← moment.inZone i.zone
        Scope.forMoment i.registry c here 1 5).toOption.map (fun s =>
          decide (t.InsertsNoLineEnd s)) = some true := by decide +kernel
    have hhere : moment.inZone i.zone = .ok here := hhere
    rw [hhere, Except.ok_bind] at hplain
    have hs : Scope.forMoment i.registry c here 1 5 = .ok s := hs
    rw [hs] at hplain
    exact of_decide_eq_true (Option.some.inj hplain)

/-- Not every text is accepted: here the year has two digits and should have four. -/
example : Registry.empty.isMatch "INV-\x7bYEAR\x7d-\x7bCOUNTER\x7d" "INV-24-00001" 5 =
    .ok false := by
  decide +kernel

end Issuer

end SerialNumbers
