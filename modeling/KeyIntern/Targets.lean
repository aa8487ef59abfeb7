import KeyIntern.Text.Search

/-! # Target modules

The modules whose imports bring keywords: the virtual module first, then the configured
ones, each name once in the order it first appears. Main statements: `mem_names` says which
names are targets, and `names_nodup` that none is listed twice.
-/

namespace KeyIntern

/-- The module every script may import keywords from. -/
def virtualModule : String := "virtual:keywords"

/-- The id under which the virtual module is handed back to a host build tool. -/
def resolvedVirtualModule : String := "\x00virtual:keywords"

/-- Appends the names of `more` that `seen` lacks, each once, in order of first appearance. -/
def appendNew (seen : List String) : List String → List String
  | [] => seen
  | n :: more => if n ∈ seen then appendNew seen more else appendNew (seen ++ [n]) more

/-- The ordered, duplicate-free list of module names an import may come from. -/
structure Targets where
  names : List String

namespace Targets

/-- The virtual module followed by `extra`, each name kept the first time it appears. -/
def ofList (extra : List String) : Targets :=
  ⟨appendNew [virtualModule] extra⟩

/-- The targets of an empty configuration. -/
instance : Inhabited Targets := ⟨ofList []⟩

/-- Whether an import source names a target, by exact equality. -/
def contains (t : Targets) (source : String) : Bool :=
  t.names.contains source

/-- Whether a text spells some target name: the text cannot import a target otherwise. -/
def mayReference (t : Targets) (text : String) : Bool :=
  t.names.any fun n => Text.occursIn n.toList text.toList

end Targets

theorem mem_appendNew {seen more : List String} {x : String} :
    x ∈ appendNew seen more ↔ x ∈ seen ∨ x ∈ more := by
  induction more generalizing seen with
  | nil => simp [appendNew]
  | cons n more ih =>
    simp only [appendNew]
    split
    · rw [ih]; simp only [List.mem_cons]; grind
    · rw [ih]; simp only [List.mem_append, List.mem_cons, List.not_mem_nil]; grind

theorem nodup_appendNew {seen more : List String} (h : seen.Nodup) :
    (appendNew seen more).Nodup := by
  induction more generalizing seen with
  | nil => simpa [appendNew] using h
  | cons n more ih =>
    simp only [appendNew]
    split
    · exact ih h
    · rename_i hn
      apply ih
      rw [List.nodup_append]
      refine ⟨h, by simp, ?_⟩
      intro a ha b hb
      simp only [List.mem_singleton] at hb
      subst hb
      intro hab
      exact hn (hab ▸ ha)

theorem Targets.mem_names {extra : List String} {x : String} :
    x ∈ (Targets.ofList extra).names ↔ x = virtualModule ∨ x ∈ extra := by
  simp [Targets.ofList, mem_appendNew]

theorem Targets.names_nodup (extra : List String) : (Targets.ofList extra).names.Nodup :=
  nodup_appendNew (by simp)

end KeyIntern
