import Playground.Proofs.Console.Terminal
import Playground.Proofs.Session

namespace Playground.Console

/-- The line above an error: the name of the file. -/
def errorLine (t : Terminal) (r : Report) : String :=
  "[error]✗[/error] [path]" ++ t.escape r.filename ++ "[/path]"

/-- A warning in a line: the name of the file, and the first line of the text. -/
def warningLine (t : Terminal) (r : Report) (message : String) : String :=
  "[warning]⚠[/warning] [path]" ++ t.escape r.filename ++ "[/path] SSR: " ++
    if message = "" then "" else t.escape (String.ofList ((Text.lines message.toList).headD []))

def errorBlock (t : Terminal) (r : Report) (message : String) : List Event :=
  [.markup (errorLine t r),
    .panel none .error (.text (String.ofList (withoutControls message.toList)))]

def problemEvents (t : Terminal) (r : Report) : List Event :=
  r.errors.flatMap (errorBlock t r) ++
    r.warnings.map fun message => .markup (warningLine t r message)

/-- A run that comes to its end and prints these events. -/
def Prints (run : Printing Unit) (printed : List Event) : Prop :=
  ∀ events, run.run.run events = (.ok (), events ++ printed)

namespace Prints

variable {t : Terminal}

theorem print {e : Event} (h : t.check e = .ok ()) : Prints (Console.print e t) [e] := by
  intro events
  change Console.print e t events = _
  rw [Console.print, h]

theorem seq {x y : Printing Unit} {printed later : List Event} (hx : Prints x printed)
    (hy : Prints y later) : Prints (do x; y) (printed ++ later) := by
  intro events
  rw [run_bind, hx]
  exact (hy _).trans (by rw [List.append_assoc])

theorem forM {α : Type} {f : α → Printing Unit} {printed : α → List Event}
    (h : ∀ a, Prints (f a) (printed a)) (as : List α) :
    Prints (as.forM f) (as.flatMap printed) := by
  induction as with
  | nil => exact fun events => by rw [List.flatMap_nil, List.append_nil]; rfl
  | cons a as ih => exact (h a).seq ih

end Prints

section Lines

theorem mark_path (text : String) : Tone.path.mark text = "[path]" ++ text ++ "[/path]" := by
  simp only [Tone.mark, Tone.name, String.reduceAppend]
  simp only [String.append_assoc, String.reduceAppend]

theorem errorLine_eq (t : Terminal) (r : Report) : errorLine t r =
    Tone.error.mark "✗" ++ (" " ++ Tone.path.mark (t.escape r.filename)) := by
  have hsign : Tone.error.mark "✗" = "[error]✗[/error]" := by
    simp only [Tone.mark, Tone.name, String.reduceAppend]
  unfold errorLine
  simp only [mark_path, hsign, ← String.append_assoc, String.reduceAppend]

theorem warningLine_eq (t : Terminal) (r : Report) (message : String) : warningLine t r message =
    Tone.warning.mark "⚠" ++ (" " ++ (Tone.path.mark (t.escape r.filename) ++
      (" SSR: " ++ firstLineOf message t))) := by
  have hsign : Tone.warning.mark "⚠" = "[warning]⚠[/warning]" := by
    simp only [Tone.mark, Tone.name, String.reduceAppend]
  have hstop (s : String) : s ++ "[/path]" ++ " SSR: " = s ++ "[/path] SSR: " := by
    simp only [String.append_assoc, String.reduceAppend]
  have hfirst : firstLineOf message t = if message = "" then "" else
      t.escape (String.ofList ((Text.lines message.toList).headD [])) := by
    simp only [firstLineOf, String.isEmpty_iff]
    rfl
  unfold warningLine
  simp only [mark_path, hsign, hfirst, ← String.append_assoc, String.reduceAppend, hstop]

variable {t : Terminal} {render : String → Except MarkupError String} (ht : t.ReadsBy render)
  {r : Report}
include ht

/-- What stands in a line behind its sign is shown behind the sign. -/
theorem render_signed (tone : Tone) {sign rest shown : String} (hsign : IsWords sign)
    (hrest : render rest = .ok shown) :
    render (tone.mark sign ++ (" " ++ rest)) = .ok (sign ++ (" " ++ shown)) :=
  ht.mark_append tone (ht.mark_words tone hsign) (ht.words_append (by decide) hrest)

theorem render_warned {name first shown shown' : String}
    (hname : render (Tone.path.mark (t.escape name)) = .ok shown)
    (hfirst : render first = .ok shown') :
    render (Tone.path.mark (t.escape name) ++ (" SSR: " ++ first)) =
      .ok (shown ++ (" SSR: " ++ shown')) :=
  ht.mark_append _ hname (ht.words_append (by decide) hfirst)

theorem prints_markup {markup : String} (h : ∃ shown, render markup = .ok shown) :
    Prints (print (.markup markup) t) [.markup markup] :=
  .print ((ht.check_eq_ok_iff _).2 fun _ hm => by rwa [List.mem_singleton.1 hm])

theorem prints_problem (r : Report) (message : String) :
    Prints (problem r message t) (errorBlock t r message) := by
  obtain ⟨shown, hname⟩ := ht.mark_escape .path r.filename
  have hline := render_signed ht .error (by decide : IsWords "✗") hname
  rw [← errorLine_eq] at hline
  unfold problem error fileMark
  rw [String.append_assoc, ← errorLine_eq]
  exact (prints_markup ht ⟨_, hline⟩).seq (.print ((ht.check_eq_ok_iff _).2 nofun))

theorem prints_degraded (r : Report) (message : String) :
    Prints (degraded r message t) [.markup (warningLine t r message)] := by
  obtain ⟨shown, hname⟩ := ht.mark_escape .path r.filename
  obtain ⟨shown', hfirst⟩ : ∃ shown, render (firstLineOf message t) = .ok shown := by
    unfold firstLineOf
    split
    · exact ⟨_, ht.words (by decide)⟩
    · exact ht.escape _
  have hline := render_signed ht .warning (by decide : IsWords "⚠")
    (render_warned ht hname hfirst)
  rw [← warningLine_eq] at hline
  have hmessage : Tone.warning.mark "⚠" ++ " " ++ (fileMark r t ++ " SSR: " ++
      firstLineOf message t) = warningLine t r message := by
    rw [warningLine_eq]
    simp only [fileMark, String.append_assoc]
  unfold degraded warning
  rw [hmessage]
  exact prints_markup ht ⟨_, hline⟩

theorem prints_problems (r : Report) : Prints (problems r t) (problemEvents t r) := by
  have hwarnings := Prints.forM (prints_degraded ht r) r.warnings
  rw [← List.map_eq_flatMap] at hwarnings
  exact (Prints.forM (prints_problem ht r) r.errors).seq hwarnings

/-- In a row nothing but the name can be wrong markup. -/
theorem map_render_resultRow (r : Report) : (resultRow r).map render =
    [render r.filename, .ok r.outcome.label, .ok (toString r.errors.length),
      .ok (toString r.warnings.length)] := by
  simp only [resultRow, List.map_cons, List.map_nil, ht.mark_words _ (isWords_label _),
    ht.words (isWords_count _)]

/-- The table passes if every name does, and it fails only with the fault of a name. -/
theorem check_resultTable (reports : List Report) :
    ((∀ r ∈ reports, ∃ shown, render r.filename = .ok shown) ∧
      t.check (.table (resultTable reports)) = .ok ()) ∨
    ∃ r ∈ reports, ∃ fault, render r.filename = .error fault ∧
      t.check (.table (resultTable reports)) = .error fault := by
  have hmarkups : (Event.table (resultTable reports)).markups =
      "Compile results" :: (reports.map resultRow).flatten := rfl
  cases hcheck : t.check (.table (resultTable reports)) with
  | ok =>
    have hall := (ht.check_eq_ok_iff _).1 hcheck
    rw [hmarkups] at hall
    refine .inl ⟨fun r hr => hall r.filename (List.mem_cons_of_mem _ ?_), rfl⟩
    exact List.mem_flatten.2 ⟨_, List.mem_map_of_mem hr, List.mem_cons_self⟩
  | error fault =>
    obtain ⟨markup, hmem, hfault⟩ := ht.check_eq_error hcheck
    rw [hmarkups] at hmem
    rcases List.mem_cons.1 hmem with rfl | hmem
    · rw [ht.words (by decide)] at hfault
      cases hfault
    · obtain ⟨row, hrow, hcell⟩ := List.mem_flatten.1 hmem
      obtain ⟨r, hr, rfl⟩ := List.mem_map.1 hrow
      have hrendered : Except.error fault ∈ (resultRow r).map render :=
        List.mem_map.2 ⟨markup, hcell, hfault⟩
      rw [map_render_resultRow ht] at hrendered
      exact .inr ⟨r, hr, fault, by simpa [eq_comm] using hrendered, rfl⟩

theorem render_errorLine {r : Report} (hname : t.Keeps render r.filename) :
    render (errorLine t r) = .ok ("✗ " ++ r.filename) := by
  have hsign : "✗ " = "✗" ++ " " := by decide
  rw [errorLine_eq, hsign, String.append_assoc]
  exact render_signed ht .error (by decide) (hname.inTone .path)

theorem render_warningLine {r : Report} {message : String} (hname : t.Keeps render r.filename)
    (hfirst : message ≠ "" →
      t.Keeps render (String.ofList ((Text.lines message.toList).headD []))) :
    render (warningLine t r message) = .ok ("⚠ " ++ r.filename ++ " SSR: " ++
      String.ofList ((Text.lines message.toList).headD [])) := by
  have hsign : "⚠ " = "⚠" ++ " " := by decide
  have hshown : render (firstLineOf message t) =
      .ok (String.ofList ((Text.lines message.toList).headD [])) := by
    unfold firstLineOf
    split
    · next hempty =>
      rw [String.isEmpty_iff.1 hempty]
      exact ht.words (by decide)
    · next hnonempty => exact (hfirst (mt String.isEmpty_iff.2 hnonempty)).alone
  rw [warningLine_eq, hsign]
  simp only [String.append_assoc]
  exact render_signed ht .warning (by decide) (render_warned ht (hname.inTone .path) hshown)

end Lines

/-- The report of a compile on a terminal is a table with a row per file, then the problems of each
file. The table takes a name for markup as it is written, and one that is no markup ends the report
before anything is printed. In the lines of problems every name and text is escaped, so that these
lines show each one that the terminal keeps where it is escaped. -/
theorem compileResults_shows {t : Terminal} {render : String → Except MarkupError String}
    (ht : t.ReadsBy render) (reports : List Report) :
    (∀ events,
      ((∀ r ∈ reports, ∃ shown, render r.filename = .ok shown) ∧
        (compileResults reports t).run.run events =
          (.ok (), events ++ .table (resultTable reports) :: reports.flatMap (problemEvents t))) ∨
      ∃ r ∈ reports, ∃ fault, render r.filename = .error fault ∧
        (compileResults reports t).run.run events = (.error fault, events)) ∧
    (resultTable reports).rows = reports.map (fun r =>
      [r.filename, (outcomeTone r.outcome).mark r.outcome.label, toString r.errors.length,
        toString r.warnings.length]) ∧
    ∀ r : Report, (resultRow r).map render =
        [render r.filename, .ok r.outcome.label, .ok (toString r.errors.length),
          .ok (toString r.warnings.length)] ∧
      (t.Keeps render r.filename →
        render (errorLine t r) = .ok ("✗ " ++ r.filename) ∧
        ∀ message, (message ≠ "" →
            t.Keeps render (String.ofList ((Text.lines message.toList).headD []))) →
          render (warningLine t r message) = .ok ("⚠ " ++ r.filename ++ " SSR: " ++
            String.ofList ((Text.lines message.toList).headD []))) := by
  refine ⟨fun events => ?_, rfl, fun r => ⟨map_render_resultRow ht r, fun hname =>
    ⟨render_errorLine ht hname, fun message hfirst => render_warningLine ht hname hfirst⟩⟩⟩
  rcases check_resultTable ht reports with ⟨hnames, hcheck⟩ | ⟨r, hr, fault, hname, hcheck⟩
  · have hprints := (Prints.print hcheck).seq (Prints.forM (prints_problems ht) reports)
    exact .inl ⟨hnames, hprints events⟩
  · refine .inr ⟨r, hr, fault, hname, ?_⟩
    have hprint : (print (.table (resultTable reports)) t).run.run events =
        (.error fault, events) := by
      change print _ t events = _
      rw [print, hcheck]
    rw [compileResults, run_bind, hprint]

/-- A name in brackets on the standard terminal: the lines of its problems show it. -/
theorem compileResults_shows_standard :
    let r : Report := ⟨"pages/[id].vue", .compiled, ["no [x]\n"], ["a [b]\nc"]⟩
    let r' : Report := ⟨"a.css", .skipped, [], []⟩
    (compileResults [r, r']).run.run [] = (.ok (), [.table (resultTable [r, r']),
      .markup "[error]✗[/error] [path]pages/\\[id].vue[/path]",
      .panel none .error (.text "no [x]\n"),
      .markup "[warning]⚠[/warning] [path]pages/\\[id].vue[/path] SSR: a \\[b]"]) ∧
    (resultTable [r, r']).rows =
      [["pages/[id].vue", "[success]compiled[/success]", "1", "1"],
        ["a.css", "[muted]skipped[/muted]", "0", "0"]] ∧
    (resultRow r).map shownText = [.ok "pages/.vue", .ok "compiled", .ok "1", .ok "1"] ∧
    shownText (errorLine .standard r) = .ok "✗ pages/[id].vue" ∧
    shownText (warningLine .standard r "a [b]\nc") = .ok "⚠ pages/[id].vue SSR: a [b]" := by
  intro r r'
  have hname : Terminal.standard.Keeps shownText r.filename :=
    standard_keeps (by decide) (by decide)
  have hfirst : Terminal.standard.Keeps shownText "a [b]" :=
    standard_keeps (by decide) (by decide)
  obtain ⟨hruns, hrows, hlines⟩ := compileResults_shows standard_readsBy [r, r']
  obtain ⟨hcells, hshown⟩ := hlines r
  obtain ⟨herror, hwarning⟩ := hshown hname
  have hevents : [r, r'].flatMap (problemEvents .standard) =
      [.markup "[error]✗[/error] [path]pages/\\[id].vue[/path]",
        .panel none .error (.text "no [x]\n"),
        .markup "[warning]⚠[/warning] [path]pages/\\[id].vue[/path] SSR: a \\[b]"] := by
    decide +kernel
  have htag : shownText r.filename = .ok "pages/.vue" := by decide +kernel
  have hrow : (resultRow r).map shownText =
      [.ok "pages/.vue", .ok "compiled", .ok "1", .ok "1"] := by
    rw [hcells, htag]
    decide +kernel
  refine ⟨?_, hrows.trans (by decide +kernel), hrow, herror,
    hwarning "a [b]\nc" fun _ => hfirst⟩
  rcases hruns [] with ⟨-, hrun⟩ | ⟨r₁, hr₁, fault, hfault, -⟩
  · rw [hrun, hevents]
    rfl
  · have hall : ∀ r₁ ∈ [r, r'], (shownText r₁.filename).toOption.isSome = true := by decide +kernel
    have hsome := hall r₁ hr₁
    rw [hfault] at hsome
    cases hsome

/-- The table leaves out the part of a name that stands in brackets, and a name with a closing tag
gives no report at all. -/
theorem resultRow_drops_brackets :
    (resultRow ⟨"pages/[id].vue", .compiled, [], []⟩).head? ≠ some (escape "pages/[id].vue") ∧
      ((resultRow ⟨"pages/[id].vue", .compiled, [], []⟩).map plain).head? = some "pages/.vue" ∧
      plain (escape "pages/[id].vue") = "pages/[id].vue" ∧
      ((compileResults [⟨"[/id].vue", .compiled, [], []⟩]).run.run []).1.toOption = none := by
  decide +kernel

end Playground.Console
