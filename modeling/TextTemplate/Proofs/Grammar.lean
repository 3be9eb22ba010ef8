import TextTemplate.Grammar
import TextTemplate.Proofs.Tag.Soundness

/-!
# What a grammar compiles

A compiled template has the body that its text was parsed to, and the entries that its name calls
for.  With the standard tags the body is derived from the tokens of the text
(`Grammar.derives_of_compile`), and all parts of it bear the name of the template
(`Grammar.name_of_part`).
-/

namespace TextTemplate.Grammar

variable {g : Grammar} {id : TemplateId} {source name : String}
  {defaults further : Dictionary Value} {t : Template}

theorem compile_eq_ok (h : g.compile id source name defaults further = .ok t) :
    ∃ body, Tag.parseTemplate g.macros source name = .ok body ∧
      t = ⟨id, body, defaults, g.entries name further⟩ := by
  unfold compile at h
  cases parsed : Tag.parseTemplate g.macros source name with
  | error fault =>
    rw [parsed] at h
    cases h
  | ok body =>
    rw [parsed] at h
    cases h
    exact ⟨body, rfl, rfl⟩

theorem compile_of_parse {body : Fragment} (id : TemplateId) (defaults further : Dictionary Value)
    (h : Tag.parseTemplate g.macros source name = .ok body) :
    g.compile id source name defaults further =
      .ok ⟨id, body, defaults, g.entries name further⟩ := by
  unfold compile
  rw [h]
  rfl

/-- With the standard tags the body of a template is derived from its tokens. -/
theorem derives_of_compile (h : g.compile id source name defaults further = .ok t)
    (standard : g.macros = Tag.standard) :
    t.name = name ∧ ∃ nodes blocks, t.body = ⟨name, nodes⟩ ∧
      Tag.Derives name (.nodes true nodes) (Markup.tokenize source) blocks := by
  obtain ⟨body, parsed, rfl⟩ := compile_eq_ok h
  rw [standard] at parsed
  obtain ⟨nodes, blocks, -, rfl, derived, -⟩ := Tag.parseTemplate_sound parsed
  exact ⟨rfl, nodes, blocks, rfl, derived⟩

/-- All parts of a template bear its name. -/
theorem name_of_part (h : g.compile id source name defaults further = .ok t)
    (standard : g.macros = Tag.standard) {f : Fragment} (part : t.body.Part f) : f.name = t.name := by
  obtain ⟨named, nodes, blocks, same, derived⟩ := derives_of_compile h standard
  rw [same] at part
  rw [named]
  rcases derived.isBody_of_part part with rfl | ⟨_, _, _, rfl, _⟩
  · rfl
  · rfl

/-! ## Entries -/

/-- The entry for the function that escapes the output of a template of a given name. -/
def escapeEntry (g : Grammar) (name : String) : Value :=
  match g.escapeFor name with
  | some f => .function f
  | none => .null

theorem ascending_entries (g : Grammar) (name : String) (further : Dictionary Value) :
    (g.entries name further).Ascending :=
  (Dictionary.ascending_ofList _).overlay further

theorem entries_get?_nameKey (g : Grammar) (name : String) (free : further.get? nameKey = none) :
    (g.entries name further).get? nameKey = some (.text name) := by
  rw [entries, Dictionary.get?_overlay_of_none free]
  show ((Dictionary.empty.insert nameKey _).insert escapeKey _).get? nameKey = _
  rw [Dictionary.get?_insert_of_ne _ _ (by decide), Dictionary.get?_insert_self]

theorem entries_get?_escapeKey (g : Grammar) (name : String) (free : further.get? escapeKey = none) :
    (g.entries name further).get? escapeKey = some (g.escapeEntry name) := by
  rw [entries, Dictionary.get?_overlay_of_none free]
  show ((Dictionary.empty.insert nameKey _).insert escapeKey _).get? escapeKey = _
  rw [Dictionary.get?_insert_self]
  rfl

/-- Further entries stand on top. -/
theorem entries_get?_of_some (g : Grammar) (name : String) (ascending : further.Ascending)
    {key : String} {v : Value} (found : further.get? key = some v) :
    (g.entries name further).get? key = some v :=
  Dictionary.get?_overlay_of_some ascending found

end TextTemplate.Grammar
