import Playground.Command.Run
import Playground.Proofs.Compile.ServerBuild
import Playground.Proofs.Store.Reports

namespace Playground.Command

open Console (Printing)

/-- The run comes to this result, unless the console refuses what is printed on the way. -/
def Yields {α : Type} (x : Running α) (result : Except RunError α) : Prop :=
  ∀ events, (∃ fault, (x.run.run events).1 = .error (.markup fault)) ∨
    (x.run.run events).1 = result

namespace Yields

variable {α β ε : Type}

theorem printing_bind {x : Printing α} {f : α → Running β} {result : Except RunError β}
    (hf : ∀ a, Yields (f a) result) : Yields (x.adapt RunError.markup >>= f) result := by
  intro events
  rw [run_bind, run_adapt]
  rcases x.run.run events with ⟨fault | a, later⟩
  · exact .inl ⟨fault, rfl⟩
  · exact hf a later

theorem check_bind {wrap : ε → RunError} {r : Except ε α} {f : α → Running β}
    {g : α → Except RunError β} (hf : ∀ a, Yields (f a) (g a)) :
    Yields (check wrap r >>= f) (r.mapError wrap >>= g) := by
  intro events
  rw [run_bind]
  cases r with
  | error e => exact .inr rfl
  | ok a => exact hf a events

end Yields

/-- The code of a run counts the files with errors. -/
theorem yields_conclusion (reports : List Report) :
    Yields ((conclusion reports).adapt .markup)
      (.ok (if ∀ report ∈ reports, report.ok = true then 0 else 1)) := by
  have hcount : (reports.filter fun r => !r.ok).length = 0 ↔
      ∀ report ∈ reports, report.ok = true := by
    simp [List.length_eq_zero_iff, List.filter_eq_nil_iff]
  intro events
  rw [run_adapt]
  unfold conclusion
  simp only [hcount]
  split
  all_goals
    rw [run_bind]
    split
    · exact .inr rfl
    · next fault _ _ => exact .inl ⟨fault, rfl⟩

variable (registry : Registry) (p : Project) (file : Option String) (printsCode : Bool)

/-- What the compile command comes to, apart from what it prints. -/
def compileQuietly : Except RunError Nat := do
  let toolchain ← (registry.load p.services).mapError .services
  let reports ← (openProject toolchain p).compileAll.1.mapError .store
  return if ∀ report ∈ reports, report.ok = true then 0 else 1

theorem yields_compile :
    Yields (compile registry p file printsCode) (compileQuietly registry p) := by
  unfold compile compileQuietly
  refine .printing_bind fun _ => .check_bind fun toolchain => ?_
  refine .check_bind fun reports => .printing_bind fun _ => ?_
  by_cases hcode : (printsCode || file.isSome) = true
  · rw [if_pos hcode]
    exact .printing_bind fun _ => yields_conclusion reports
  · rw [if_neg hcode]
    exact yields_conclusion reports

variable {registry p} in
theorem compileQuietly_of_load {toolchain : Toolchain}
    (hload : registry.load p.services = .ok toolchain) :
    compileQuietly registry p = match (openProject toolchain p).compileAll.1 with
      | .error e => .error (.store e)
      | .ok reports => .ok (if ∀ report ∈ reports, report.ok = true then 0 else 1) := by
  unfold compileQuietly
  rw [hload]
  change ((openProject toolchain p).compileAll.1.mapError RunError.store >>= _) = _
  cases (openProject toolchain p).compileAll.1 <;> rfl

theorem code_ofError (e : RunError) (events : List Console.Event) :
    (Ending.ofError e events).code = 1 := by
  unfold Ending.ofError
  rcases (Console.error ("Error: " ++ Console.escape e.message)).run.run events with ⟨_, _⟩
  rfl

/-- A run of the compile command has the code that the compile gives, or one if it fails. -/
theorem code_runRequest :
    (runRequest registry (.compile p file printsCode)).code =
      match ((compile registry p file printsCode).run.run []).1 with
      | .ok code => code
      | .error _ => 1 := by
  simp only [runRequest]
  rcases (compile registry p file printsCode).run.run [] with ⟨e | code, events⟩
  · exact code_ofError e events
  · rfl

section Opened

variable (toolchain : Toolchain)

theorem openProject_eq : openProject toolchain p =
    (Store.empty ⟨toolchain, p.options⟩ p.main).afterAll (p.files.map fun f => .add f.1 f.2) := by
  rw [Store.afterAll, List.foldl_map]
  rfl

theorem coherent_openProject : (openProject toolchain p).Coherent := by
  rw [openProject_eq]
  exact Store.afterAll_keeps Store.Coherent.change (Store.coherent_empty _ _) _

theorem compiler_openProject : (openProject toolchain p).compiler = ⟨toolchain, p.options⟩ := by
  rw [openProject_eq]
  exact Store.compiler_afterAll _ _

theorem history_openProject : (openProject toolchain p).history = [] := by
  have hadds (files : List (String × String)) (s : Store) :
      (files.foldl (fun s f => s.add f.1 f.2) s).history = s.history := by
    induction files generalizing s with
    | nil => rfl
    | cons f files ih => exact ih (s.add f.1 f.2)
  exact hadds p.files _

theorem mem_keys_openProject {name : String} :
    name ∈ Assoc.keys (openProject toolchain p).files ↔ name ∈ Assoc.keys p.files := by
  have hadds (files : List (String × String)) (s : Store) :
      name ∈ Assoc.keys (files.foldl (fun s f => s.add f.1 f.2) s).files ↔
        name ∈ Assoc.keys s.files ∨ name ∈ Assoc.keys files := by
    induction files generalizing s with
    | nil => simp [Assoc.keys]
    | cons f files ih =>
      have hadd : name ∈ Assoc.keys (s.add f.1 f.2).files ↔
          name = f.1 ∨ name ∈ Assoc.keys s.files := Assoc.mem_keys_put
      have hcons : name ∈ Assoc.keys (f :: files) ↔ name = f.1 ∨ name ∈ Assoc.keys files :=
        List.mem_cons
      rw [List.foldl_cons, ih, hadd, hcons]
      exact or_assoc.trans or_left_comm
  exact (hadds p.files _).trans (or_iff_right List.not_mem_nil)

/-- To compile a whole project fails exactly when a scope id is refused. -/
theorem refusedIn_openProject :
    toolchain.RefusedIn (openProject toolchain p).compileAll.2.history ↔
      ∃ e, (openProject toolchain p).compileAll.1 = .error e := by
  have hall := Store.refusedIn_compileEach (s := openProject toolchain p) fun _ hname => hname
  rw [compiler_openProject, history_openProject] at hall
  exact hall.trans (or_iff_right toolchain.not_refusedIn_nil)

end Opened

/-- Every compile that returns reports what it did, so a file is in order exactly when it has no
errors. The command that compiles a project ends with one if the project or its services cannot be
loaded or a scope id is refused. Else it ends with zero exactly when no errors are recorded for any
file of the project, whatever warnings there are, and with one otherwise. -/
theorem run_compile_code :
    (∀ (c : Compiler) (file file' : VirtualFile) (report : Report) (h h' : List Playground.Call),
      (c.compileFile file).run h = (.ok (report, file'), h') → report.Fits file) ∧
    ∀ (registry : Registry) (e : Environment) (args : List String) (manifest : String)
      (file : Option String) (printsCode : Bool),
      Call.ofArguments args = .ok (.compile manifest file printsCode) →
      let ending := run registry e args
      (∀ error, Request.ofCall e (.compile manifest file printsCode) = .error error →
        ending.code = 1) ∧
      ∀ request, Request.ofCall e (.compile manifest file printsCode) = .ok request →
        ∃ p, request = .compile p file printsCode ∧
          (∀ error, registry.load p.services = .error error → ending.code = 1) ∧
          ∀ toolchain, registry.load p.services = .ok toolchain →
            let s := (openProject toolchain p).compileAll.2
            (toolchain.RefusedIn s.history → ending.code = 1) ∧
            (¬ toolchain.RefusedIn s.history →
              (∀ fault, ((compile registry p file printsCode).run.run []).1 ≠
                .error (.markup fault)) →
              ending.code =
                if ∀ name ∈ Assoc.keys p.files, s.errorsFor name = [] then 0 else 1) := by
  refine ⟨fun c file file' report h h' hrun => Compiler.fits_of_compileFile hrun, ?_⟩
  intro registry e args manifest file printsCode hcall ending
  refine ⟨fun error herror => ?_, fun request hrequest => ?_⟩
  · simp only [ending, run, hcall, herror, code_ofError]
  obtain ⟨p, -, hp⟩ := bind_eq_ok hrequest
  obtain ⟨-, -, hp⟩ := bind_eq_ok hp
  obtain rfl := Except.ok.inj hp
  have hcode := code_runRequest registry p file printsCode
  rw [show runRequest registry (.compile p file printsCode) = ending by
    simp only [ending, run, hcall, hrequest]] at hcode
  have hresult := yields_compile registry p file printsCode []
  refine ⟨p, rfl, ?_⟩
  generalize ((compile registry p file printsCode).run.run []).1 = result at hcode hresult ⊢
  have hfailed (error : RunError) (he : compileQuietly registry p = .error error) :
      ending.code = 1 := by
    rcases hresult with ⟨fault, rfl⟩ | rfl
    · exact hcode
    · rw [hcode, he]
  refine ⟨fun error hload => ?_, fun toolchain hload =>
    ⟨fun hrefused => ?_, fun hpassed hprinted => ?_⟩⟩
  · refine hfailed (.services error) ?_
    rw [compileQuietly, hload]
    rfl
  · obtain ⟨error, he⟩ := (refusedIn_openProject p toolchain).1 hrefused
    refine hfailed (.store error) ?_
    rw [compileQuietly_of_load hload, he]
  · have hquiet := hresult.resolve_left fun ⟨fault, hfault⟩ => hprinted fault hfault
    have hs := coherent_openProject p toolchain
    rcases hcompile : (openProject toolchain p).compileAll with ⟨e | reports, s⟩
    · exact absurd ((refusedIn_openProject p toolchain).2 ⟨e, by rw [hcompile]⟩) hpassed
    · have hall := Store.all_ok_iff_of_compileEach hs hs.distinct hcompile
      simp only [mem_keys_openProject] at hall
      rw [hcode, hquiet, compileQuietly_of_load hload, hcompile]
      simp only [hall]

/-- Services under which every server build is degraded. -/
def degrading : Toolchain := Compiler.serverFails.toolchain

def kit : Registry := { modules := [("kit", [("ssr", .toolchain degrading)])] }

theorem load_kit : kit.load (some "kit:ssr") = .ok degrading := by
  have hname : "kit".startsWith "." = false := by decide +kernel
  have hoffer : kit.offer "kit" "ssr" = .ok (.toolchain degrading) := by
    unfold Registry.offer
    rw [hname]
    rfl
  change (kit.offer "kit" "ssr").bind (Registry.make "kit:ssr") = _
  rw [hoffer]
  rfl

/-- A manifest of one component with services from the kit. -/
def oneComponent : Environment :=
  let manifest := "\x7b\"services\":\"kit:ssr\",\"files\":\x7b\"App.vue\":\"x\"\x7d\x7d"
  { disk := { files := [(["p.json"], manifest.toList.map (·.toNat))] } }

/-- What is seen of a request to compile: its services, the warnings and errors of its files, and
the code that the command comes to. -/
def seen : Request → Option String × Option Nat × List (List String) × Option Nat
  | .compile p file printsCode =>
    let (result, s) := (openProject degrading p).compileAll
    (p.services, result.toOption.map fun reports => (reports.flatMap (·.warnings)).length,
      (Assoc.keys p.files).map s.errorsFor, ((compile kit p file printsCode).run.run []).1.toOption)
  | .imports .. => (none, none, [], none)

/-- A component with a warning and without errors is in order. -/
theorem run_compile_code_degraded :
    let args := ["compile", "p.json"]
    let call := Call.compile "p.json" none false
    Call.ofArguments args = .ok call ∧
      (Request.ofCall oneComponent call).toOption.map seen =
        some (some "kit:ssr", some 1, [[]], some 0) ∧
      (run kit oneComponent args).code = 0 := by
  intro args call
  have hcall : Call.ofArguments args = .ok call := by decide +kernel
  have hseen : (Request.ofCall oneComponent call).toOption.map seen =
      some (some "kit:ssr", some 1, [[]], some 0) := by decide +kernel
  refine ⟨hcall, hseen, ?_⟩
  obtain ⟨request, hrequest, hseen⟩ := exists_of_toOption_map hseen
  obtain ⟨p, rfl, -, hloaded⟩ :=
    (run_compile_code.2 kit oneComponent args "p.json" none false hcall).2 request hrequest
  simp only [seen, Prod.mk.injEq] at hseen
  obtain ⟨hservices, -, herrors, hprinted⟩ := hseen
  have hload : kit.load p.services = .ok degrading := by rw [hservices, load_kit]
  have hpassed : ¬ degrading.RefusedIn (openProject degrading p).compileAll.2.history := by
    rintro ⟨before, name, f, -, hf⟩
    cases hf
  have hcode := (hloaded degrading hload).2 hpassed fun fault hfault => by
    rw [hfault] at hprinted
    cases hprinted
  rw [hcode, if_pos]
  intro name hname
  have hmem := List.mem_map_of_mem (f := (openProject degrading p).compileAll.2.errorsFor) hname
  rw [herrors] at hmem
  exact List.mem_singleton.1 hmem

end Playground.Command
