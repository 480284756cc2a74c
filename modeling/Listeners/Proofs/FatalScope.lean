/-
How far a fatal diagnostic reaches.

The two scopes differ in what is done when all classes of a file have been analysed, and in
nothing before.  Each class is analysed in the same way, with the same diagnostics, so the
analyses agree unless something fatal has been recorded; and then the wider scope takes the
listeners of every class away, also of those that come before the mistake, and leaves the
classes and the diagnostics where they are.
-/
import Listeners.Proofs.Diagnostics

namespace Listeners

namespace Declaration

/-- A declaration gives a fatal diagnostic exactly if one of its names is rejected. -/
theorem exists_fatal_iff (file : String) (d : Declaration) :
    (∃ diagnostic ∈ d.faults file, diagnostic.isFatal = true) ↔
      ∃ name ∈ d.names, ∃ rejection, Specifier.parse name = .error rejection := by
  have hfilter := d.filter_isFatal_faults file
  constructor
  · rintro ⟨diagnostic, hmem, hfatal⟩
    have hname : diagnostic ∈ d.names.filterMap (d.nameFault? file) := by
      rw [← hfilter]
      exact List.mem_filter.mpr ⟨hmem, hfatal⟩
    obtain ⟨name, hmem, hfault⟩ := List.mem_filterMap.mp hname
    obtain ⟨rejection, hparse, -⟩ := nameFault?_eq_some_iff.mp hfault
    exact ⟨name, hmem, rejection, hparse⟩
  · rintro ⟨name, hmem, rejection, hparse⟩
    obtain ⟨diagnostic, hfault⟩ : ∃ diagnostic, d.nameFault? file name = some diagnostic :=
      ⟨_, nameFault?_eq_some_iff.mpr ⟨rejection, hparse, rfl⟩⟩
    have hfiltered : diagnostic ∈ (d.faults file).filter (·.isFatal) := by
      rw [hfilter]
      exact List.mem_filterMap.mpr ⟨name, hmem, hfault⟩
    exact ⟨diagnostic, List.mem_of_mem_filter hfiltered, isFatal_of_nameFault? hfault⟩

end Declaration

/-- A class with one member and one annotation, which lists the names of a text. -/
def View.listeningTo (text : String) : View :=
  ⟨some "Tabs", ⟨1, 1⟩, [⟨some "onClick", ⟨2, 3⟩, [⟨"Listen", ⟨2, 3⟩, [.string text ⟨2, 11⟩]⟩]⟩]⟩

namespace Analysis

/-- The analysis of a file in which only the listener is lost that a diagnostic is about. -/
theorem ofViews_specifier (name file : String) (views : List View) :
    ofViews ⟨name, .specifier⟩ file views =
      ⟨file, views.map (View.declaredListeners name),
        views.flatMap (View.declaredFaults name file)⟩ := by
  unfold ofViews
  rw [View.analyzeAll_eq]
  rfl

/-- The wider scope clears the classes of the narrower one if something fatal is recorded. -/
theorem ofViews_file (name file : String) (views : List View) :
    ofViews ⟨name, .file⟩ file views =
      let narrow := ofViews ⟨name, .specifier⟩ file views
      if narrow.hasFatal then { narrow with classes := narrow.classes.map (·.cleared) }
      else narrow := by
  rw [ofViews_specifier]
  unfold ofViews
  rw [View.analyzeAll_eq]
  show (⟨file, if (views.flatMap (View.declaredFaults name file)).any (·.isFatal) then _ else _,
    _⟩ : Analysis) = if (views.flatMap (View.declaredFaults name file)).any (·.isFatal) then _
      else _
  split <;> rfl

/-- Something fatal is recorded exactly if a name is rejected that an annotation of one of
the classes lists. -/
theorem hasFatal_ofViews_iff (name file : String) (views : List View) :
    (ofViews ⟨name, .specifier⟩ file views).hasFatal = true ↔
      ∃ view ∈ views, ∃ d ∈ view.declarations name, ∃ listed ∈ d.names, ∃ rejection,
        Specifier.parse listed = .error rejection := by
  rw [ofViews_specifier]
  unfold hasFatal
  rw [List.any_eq_true]
  constructor
  · rintro ⟨diagnostic, hmem, hfatal⟩
    obtain ⟨view, hview, hmem⟩ := List.mem_flatMap.mp hmem
    obtain ⟨d, hd, hmem⟩ := List.mem_flatMap.mp hmem
    exact ⟨view, hview, d, hd, (d.exists_fatal_iff file).mp ⟨diagnostic, hmem, hfatal⟩⟩
  · rintro ⟨view, hview, d, hd, hrejected⟩
    obtain ⟨diagnostic, hmem, hfatal⟩ := (d.exists_fatal_iff file).mpr hrejected
    refine ⟨diagnostic, List.mem_flatMap.mpr ⟨view, hview, ?_⟩, hfatal⟩
    exact List.mem_flatMap.mpr ⟨d, hd, hmem⟩

/-- **The scope decides what is lost, and nothing else.**  Under both scopes a file has the
same diagnostics and the same classes.  If nothing fatal is recorded the analyses are the
same; if anything is, because a name is rejected in whichever class, no class has listeners
under the wider scope.  So listeners that are left under it vouch for the whole file. -/
theorem ofViews_scopes (name file : String) (views : List View) :
    let narrow := ofViews ⟨name, .specifier⟩ file views
    let wide := ofViews ⟨name, .file⟩ file views
    wide.diagnostics = narrow.diagnostics ∧
      wide.classes.map (fun c => (c.className, c.location)) =
        narrow.classes.map (fun c => (c.className, c.location)) ∧
      (narrow.hasFatal = true ↔
        ∃ view ∈ views, ∃ d ∈ view.declarations name, ∃ listed ∈ d.names, ∃ rejection,
          Specifier.parse listed = .error rejection) ∧
      ((∀ diagnostic ∈ narrow.diagnostics, diagnostic.isFatal = false) → wide = narrow) ∧
      ((∃ diagnostic ∈ narrow.diagnostics, diagnostic.isFatal = true) →
        ∀ c ∈ wide.classes, c.bindings = [] ∧ c.consumed = []) ∧
      ((∃ c ∈ wide.classes, c.bindings ≠ [] ∨ c.consumed ≠ []) → wide.hasFatal = false) := by
  intro narrow wide
  have hwide : wide = if narrow.hasFatal then
      { narrow with classes := narrow.classes.map (·.cleared) } else narrow :=
    ofViews_file name file views
  have hcleared : ∀ c ∈ narrow.classes.map (·.cleared), c.bindings = [] ∧ c.consumed = [] := by
    intro c hc
    obtain ⟨lost, -, rfl⟩ := List.mem_map.mp hc
    exact ⟨rfl, rfl⟩
  have hrejected := hasFatal_ofViews_iff name file views
  by_cases hfatal : narrow.hasFatal = true
  · rw [if_pos hfatal] at hwide
    have hsome : ∃ diagnostic ∈ narrow.diagnostics, diagnostic.isFatal = true :=
      List.any_eq_true.mp hfatal
    rw [hwide]
    refine ⟨rfl, by rw [List.map_map]; rfl, hrejected, ?_, fun _ => hcleared, ?_⟩
    · intro hnone
      obtain ⟨diagnostic, hmem, hd⟩ := hsome
      rw [hnone diagnostic hmem] at hd
      cases hd
    · rintro ⟨c, hc, hleft⟩
      obtain ⟨hbindings, hconsumed⟩ := hcleared c hc
      rcases hleft with hleft | hleft
      · exact absurd hbindings hleft
      · exact absurd hconsumed hleft
  · rw [if_neg hfatal] at hwide
    rw [hwide]
    refine ⟨rfl, rfl, hrejected, fun _ => rfl, ?_, fun _ => by simpa using hfatal⟩
    intro hsome
    exact absurd (List.any_eq_true.mpr hsome) hfatal

/-- A name that is rejected in a class takes the listeners away from the class before it. -/
theorem ofViews_scopes_two_classes :
    (∀ d ∈ (ofViews ⟨"Listen", .specifier⟩ "a.ts" [.listeningTo "click"]).diagnostics,
        d.isFatal = false) ∧
      ofViews ⟨"Listen", .file⟩ "a.ts" [.listeningTo "click"] =
        ofViews ⟨"Listen", .specifier⟩ "a.ts" [.listeningTo "click"] ∧
      (∃ c ∈ (ofViews ⟨"Listen", .file⟩ "a.ts" [.listeningTo "click"]).classes,
        c.bindings ≠ [] ∨ c.consumed ≠ []) ∧
      (ofViews ⟨"Listen", .file⟩ "a.ts" [.listeningTo "click"]).hasFatal = false ∧
      (∃ d ∈ (ofViews ⟨"Listen", .specifier⟩ "a.ts"
          [.listeningTo "click", .listeningTo "a:b:c"]).diagnostics, d.isFatal = true) ∧
      ∀ c ∈ (ofViews ⟨"Listen", .file⟩ "a.ts"
          [.listeningTo "click", .listeningTo "a:b:c"]).classes,
        c.bindings = [] ∧ c.consumed = [] := by
  have hnone : ∀ d ∈
      (ofViews ⟨"Listen", .specifier⟩ "a.ts" [.listeningTo "click"]).diagnostics,
      d.isFatal = false := by decide
  have hleft : ∃ c ∈ (ofViews ⟨"Listen", .file⟩ "a.ts" [.listeningTo "click"]).classes,
      c.bindings ≠ [] ∨ c.consumed ≠ [] := ⟨_, List.mem_cons_self, Or.inr (by decide)⟩
  have hsome : ∃ d ∈ (ofViews ⟨"Listen", .specifier⟩ "a.ts"
      [.listeningTo "click", .listeningTo "a:b:c"]).diagnostics, d.isFatal = true := by decide
  obtain ⟨-, -, -, hsame, -, hwhole⟩ := ofViews_scopes "Listen" "a.ts" [.listeningTo "click"]
  obtain ⟨-, -, -, -, hlost, -⟩ :=
    ofViews_scopes "Listen" "a.ts" [.listeningTo "click", .listeningTo "a:b:c"]
  exact ⟨hnone, hsame hnone, hleft, hwhole hleft, hsome, hlost hsome⟩

end Analysis

end Listeners
