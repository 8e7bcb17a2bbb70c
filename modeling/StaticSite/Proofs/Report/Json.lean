import StaticSite.CommandLine.Run
import StaticSite.Proofs.Json.RoundTrip

/-!
# A report as JSON, read back

A build that is asked for JSON prints its report as one value on lines of its own. Whoever reads the
text as JSON gets all of the report: names, titles and sections are any texts, there may be no pages
at all or pages without sections, and the output directory may be missing.

## Two steps

The value comes back from its text because the printer and the reader agree on every legible value,
and a report is one: its only numbers are natural. The report comes back from the value because each
of its fields is found under its own key. The output directory is the one key that may be missing,
and it is missing exactly when there is no directory; an empty directory is a text like any other.

## Main results

* `Json.read_unlines_pretty` — a value on lines of its own is read as the value
* `SiteReport.ofJson?_toJson` — the value of a report gives the report back
* `CommandLine.output_build` — what a build that is asked for JSON prints
* `SiteReport.json_reads_back` — all of it, for reports and for builds
-/

namespace StaticSite

namespace Json

/-- The line end behind a printed value is passed over. -/
theorem read_unlines_pretty {v : Value} (h : v.Legible) :
    read (Text.unlines [v.pretty]) = some v := by
  have hchars : (Text.unlines [v.pretty]).toList = v.print 0 ++ (newline 0 ++ []) := by
    simp [Text.unlines, Value.pretty, newline]
  have hfuel : 2 * (v.print 0).length < 2 * (v.print 0 ++ (newline 0 ++ [])).length + 2 := by
    rw [List.length_append]
    omega
  rw [read, hchars, readValue_print v 0 _ (newline 0 ++ []) h (follows_newline 0 []) hfuel]
  rfl

/-- No value is read from nothing. -/
theorem read_empty : read "" = none := rfl

/-- Where every item comes back, the list does. -/
theorem mapM_eq_some {α : Type} {f : α → Option α} (h : ∀ a, f a = some a) (items : List α) :
    items.mapM f = some items := by
  induction items with
  | nil => rfl
  | cons a rest ih => simp [h, ih]

end Json

/-! ### Values of reports -/

theorem PageStatus.ofName?_name (s : PageStatus) : ofName? s.name = some s := by
  cases s <;> rfl

namespace PageReport

theorem legible_toJson (p : PageReport) : p.toJson.Legible := by
  have hsections : Json.Value.LegibleItems (p.sections.map .string) := by
    induction p.sections with
    | nil => exact trivial
    | cons id rest ih => exact ⟨trivial, ih⟩
  exact ⟨trivial, trivial, trivial, hsections, Json.Value.legible_nat p.bytes, trivial, trivial⟩

/-- **The value of a page's line** gives the line back. -/
theorem ofJson?_toJson (p : PageReport) : ofJson? p.toJson = some p := by
  have hsections : p.sections.mapM (Json.Value.string? ∘ Json.Value.string) = some p.sections :=
    Json.mapM_eq_some (fun _ => rfl) p.sections
  simp [ofJson?, toJson, Json.Value.member?, List.lookup_cons, Json.Value.string?,
    Json.Value.array?, Json.Value.nat?_nat, PageStatus.ofName?_name, hsections]

end PageReport

namespace SiteReport

theorem legible_toJson (r : SiteReport) : r.toJson.Legible := by
  have hpages : Json.Value.LegibleItems (r.pages.map PageReport.toJson) := by
    induction r.pages with
    | nil => exact trivial
    | cons p rest ih => exact ⟨p.legible_toJson, ih⟩
  obtain ⟨project, version, outputDir?, pages⟩ := r
  cases outputDir? with
  | none => exact ⟨trivial, trivial, hpages, trivial⟩
  | some dir => exact ⟨trivial, trivial, trivial, hpages, trivial⟩

/-- **The value of a report** gives the report back. -/
theorem ofJson?_toJson (r : SiteReport) : ofJson? r.toJson = some r := by
  have hpages : r.pages.mapM (PageReport.ofJson? ∘ PageReport.toJson) = some r.pages :=
    Json.mapM_eq_some PageReport.ofJson?_toJson r.pages
  obtain ⟨project, version, outputDir?, pages⟩ := r
  cases outputDir? <;>
    simp [ofJson?, toJson, Json.Value.member?, List.lookup_cons, Json.Value.string?,
      Json.Value.array?, hpages]

/-- What is printed of a report in JSON. -/
def jsonText (r : SiteReport) : String :=
  Text.unlines [r.toJson.pretty]

/-- The report that a text is, if it is one in JSON. -/
def ofJsonText? (s : String) : Option SiteReport :=
  (Json.read s).bind ofJson?

theorem read_jsonText (r : SiteReport) : Json.read r.jsonText = some r.toJson :=
  Json.read_unlines_pretty r.legible_toJson

/-- **The text of a report** gives the report back. -/
theorem ofJsonText?_jsonText (r : SiteReport) : ofJsonText? r.jsonText = some r := by
  rw [ofJsonText?, read_jsonText, Option.bind_some, ofJson?_toJson]

theorem jsonText_injective : Function.Injective jsonText := by
  intro r r' h
  have hsome : some r = some r' := by
    rw [← ofJsonText?_jsonText r, h, ofJsonText?_jsonText r']
  exact Option.some.inj hsome

end SiteReport

/-! ### What a build prints -/

namespace CommandLine

/-- The report of the build that a call asks for, if there is one. -/
def Call.buildReport? (c : Call) (noCache : Bool) (tree : FileTree) : Option SiteReport :=
  match loadConfigAs tree ⟨c.config⟩ c.projectVersion? with
  | .error _ => none
  | .ok config =>
    (Build.generate Sha256.ofText config Stock.pages ⟨c.output⟩ (!noCache) tree).result.toOption

/-- A build that is asked for JSON prints its report and nothing else, and a build that fails prints
nothing. -/
theorem output_build (c : Call) (noCache : Bool) (tree : FileTree) :
    ({ c with command := .build noCache true }.run tree).output =
      match c.buildReport? noCache tree with
      | some report => report.jsonText
      | none => "" := by
  simp only [Call.run, runBuild, withConfig, Call.buildReport?]
  cases loadConfigAs tree ⟨c.config⟩ c.projectVersion? with
  | error e => rfl
  | ok config =>
    simp only
    cases (Build.generate Sha256.ofText config Stock.pages ⟨c.output⟩ (!noCache) tree).result
    case error e => rfl
    case ok report => rfl

end CommandLine

namespace SiteReport

/-- **The JSON form of a report carries the whole report.** Its text is read as an object, with the
key of the output directory exactly when there is one, and the object gives the report back with all
its pages in their order. Reports with the same text are equal. A build that is asked for JSON
prints what its report is read back from, and when it fails it prints nothing that could be read. -/
theorem json_reads_back :
    (∀ r : SiteReport, ∃ members,
      Json.read r.jsonText = some (.object members) ∧
      ("output_dir" ∈ members.map Prod.fst ↔ r.outputDir? ≠ none) ∧
      ofJson? (.object members) = some r) ∧
    (∀ r r' : SiteReport, r.jsonText = r'.jsonText ↔ r = r') ∧
    ∀ (c : CommandLine.Call) (noCache : Bool) (tree : FileTree),
      ofJsonText? ({ c with command := .build noCache true }.run tree).output =
        c.buildReport? noCache tree := by
  refine ⟨fun r => ⟨_, read_jsonText r, ?_, ofJson?_toJson r⟩,
    fun r r' => jsonText_injective.eq_iff, fun c noCache tree => ?_⟩
  · obtain ⟨project, version, outputDir?, pages⟩ := r
    cases outputDir? <;> simp
  · rw [CommandLine.output_build]
    cases c.buildReport? noCache tree with
    | none => rw [ofJsonText?, Json.read_empty]; rfl
    | some report => exact ofJsonText?_jsonText report

end SiteReport

end StaticSite
