import KeyIntern.Targets

/-! # The list of target names

The target list is the virtual module followed by the configured names, with every name after
its first appearance left out: it is core's `List.eraseDups` of that list, which keeps first
occurrences. Building the list name by name (`appendNew`) is erasing duplicates of the whole list
at once, because the names seen so far hold none twice.

Main statement: `Targets.names_ofList`, the list is the virtual module and the configured names
with duplicates erased; it holds no name twice, begins with the virtual module, and an import
source is a target exactly when it is the virtual module or a configured name.
-/

namespace KeyIntern

/-! ## Erasing duplicates -/

/-- A list without duplicates has none to erase. -/
theorem eraseDups_of_nodup {l : List String} (distinct : l.Nodup) : l.eraseDups = l := by
  induction l with
  | nil => rfl
  | cons a rest ih =>
    obtain ⟨fresh, restDistinct⟩ := List.nodup_cons.mp distinct
    -- no later name equals the first, so the filter of `eraseDups_cons` keeps them all
    have kept : rest.filter (fun b => !b == a) = rest := by
      rw [List.filter_eq_self]
      intro b inRest
      have : b ≠ a := fun same => fresh (same ▸ inRest)
      simpa using this
    rw [List.eraseDups_cons, kept, ih restDistinct]

/-- A name already seen is erased wherever it comes again. -/
theorem eraseDups_append_cons_of_mem {seen more : List String} {n : String} (seenN : n ∈ seen) :
    (seen ++ n :: more).eraseDups = (seen ++ more).eraseDups := by
  have dropped : (n :: more).removeAll seen = more.removeAll seen := by
    simp [List.removeAll, seenN]
  rw [List.eraseDups_append, List.eraseDups_append, dropped]

/-- Adding names one by one, each unless it was seen, erases the duplicates of the whole list. -/
theorem appendNew_eq_eraseDups {seen more : List String} (distinct : seen.Nodup) :
    appendNew seen more = (seen ++ more).eraseDups := by
  induction more generalizing seen with
  | nil => rw [appendNew, List.append_nil, eraseDups_of_nodup distinct]
  | cons n more ih =>
    rw [appendNew]
    split
    · rename_i seenN
      rw [ih distinct, eraseDups_append_cons_of_mem seenN]
    · rename_i newN
      have grown : (seen ++ [n]).Nodup :=
        List.nodup_append.mpr ⟨distinct, by simp, fun a inSeen b isN => by
          simp only [List.mem_singleton] at isN
          exact fun same => newN (isN ▸ same ▸ inSeen)⟩
      rw [ih grown, List.append_assoc, List.singleton_append]

/-! ## The target list -/

theorem Targets.contains_ofList_iff {extra : List String} {source : String} :
    (Targets.ofList extra).contains source = true ↔ source = virtualModule ∨ source ∈ extra := by
  rw [Targets.contains, List.contains_iff_mem, Targets.mem_names]

/-- The targets of a configuration: the virtual module and the configured names with every name
after its first appearance erased, so no name twice and the virtual module first; a source is a
target when it is one of these names. -/
theorem Targets.names_ofList (extra : List String) :
    (Targets.ofList extra).names = (virtualModule :: extra).eraseDups ∧
      (Targets.ofList extra).names.Nodup ∧
      (Targets.ofList extra).names.head? = some virtualModule ∧
      ∀ source, (Targets.ofList extra).contains source = true ↔
        source = virtualModule ∨ source ∈ extra := by
  have listed : (Targets.ofList extra).names = (virtualModule :: extra).eraseDups :=
    appendNew_eq_eraseDups (by simp)
  refine ⟨listed, Targets.names_nodup extra, ?_, fun source => Targets.contains_ofList_iff⟩
  rw [listed, List.eraseDups_cons]
  rfl

example : (Targets.ofList ["@app/keys", virtualModule, "@app/keys", "shared"]).names =
    [virtualModule, "@app/keys", "shared"] := by decide

end KeyIntern
