import MotionTutor.Proofs.Catalog.Directory
import MotionTutor.Proofs.Store.Disk

/-!
# A catalog stays what it is while profiles are saved

The documents of a catalog have other names than the draft of a store, and where nothing stood none
of them was read. So the catalog of a directory opens as before on a disk on which only the two
files of a store changed and directories were added (`Catalog.open?_of_grows`).
-/

namespace MotionTutor

namespace Corpus

/-- **A corpus is as good as another whose documents it has**, if that one is well formed. -/
theorem chapters_of_documents {f g : String → Except CorpusFault String} {chapters : List Chapter}
    (h : (ofDocuments f).chapters = .ok chapters)
    (hdocuments : ∀ name content, name.toList.getLast? = some 'n' → f name = .ok content →
      g name = .ok content) : (ofDocuments g).chapters = .ok chapters := by
  obtain ⟨entries, hwell, -⟩ := chapters_eq_ok_iff.1 h
  have hsame : ∀ {α : Type} {decode : String → Except CorpusFault α} {name : String} {x : α},
      name.toList.getLast? = some 'n' → (f name).bind decode = .ok x →
        (f name).bind decode = (g name).bind decode := by
    intro α decode name x hname hx
    cases hf : f name with
    | error fault =>
      rw [hf] at hx
      cases hx
    | ok content => rw [hdocuments name content hname hf]
  rw [← h]
  refine (chapters_congr (hsame (by decide) hwell.listed) fun infos hinfos info hinfo => ?_).symm
  cases hwell.listed.symm.trans hinfos
  obtain ⟨e, he, rfl⟩ := List.mem_map.1 hinfo
  have hfile : (fileOf e.id).toList.getLast? = some 'n' := by
    rw [fileOf, String.toList_append, List.getLast?_append]
    rfl
  exact hsame hfile (hwell.decodes e he)

end Corpus

namespace Catalog

variable {c : Catalog} {d d' : Disk} {s : Store} {directory : Option String} {q q' : List String}

theorem document_eq_ok {d : Disk} {directory name content : String}
    (h : d.document directory name = .ok content) :
    d.read (Path.join directory name) = .ok content := by
  unfold Disk.document at h
  cases hread : d.read (Path.join directory name) with
  | error fault =>
    rw [hread] at h
    cases h
  | ok text =>
    rw [hread] at h
    cases h
    rfl

/-- A document does not stand where a store keeps its files: at the place of the record there was
nothing, and the draft has another name. -/
theorem place_not_mem {d' : Disk} {directory name content : String} {place : List String}
    (hname : name.toList.getLast? = some 'n')
    (hread : d.read (Path.join directory name) = .ok content)
    (hlocate : d.locate (Path.join directory name) = .ok place) (hready : d'.Ready s q q')
    (hnode : d.node? q = none) : place ∉ [q, q'] := by
  intro hmem
  rcases List.mem_cons.1 hmem with rfl | hmem
  · obtain ⟨_, hplace, hfile, -⟩ := Disk.read_eq_ok_iff.1 hread
    cases hlocate.symm.trans hplace
    cases hnode.symm.trans hfile
  · obtain rfl := List.mem_singleton.1 hmem
    obtain ⟨_, last, hlast, hn⟩ := Disk.exists_place_concat (Path.getLast?_join directory hname)
      (by decide) (by decide) hlocate
    obtain ⟨_, last', hlast', hp⟩ := Disk.exists_place_concat (Disk.getLast?_draftPath s)
      (by decide) (by decide) hready.draft
    have hsame : last = last' :=
      List.singleton_inj.1 (List.append_inj' (hlast.symm.trans hlast') rfl).2
    rw [hsame] at hn
    cases hn.symm.trans hp

/-- **A catalog opens as before.** -/
theorem open?_of_grows (hgrows : d.Grows [q, q'] d') (hready : d'.Ready s q q')
    (hnode : d.node? q = none)
    (hopen : ((open? directory : StateM Disk (Except CatalogError Catalog)).run d).1 = .ok c) :
    ((open? directory : StateM Disk (Except CatalogError Catalog)).run d').1 = .ok c := by
  cases directory with
  | none => exact hopen
  | some directory =>
    rw [open?_run] at hopen ⊢
    rw [load_eq_ok_iff] at hopen ⊢
    refine Corpus.chapters_of_documents hopen fun name content hname hcontent => ?_
    have hread := document_eq_ok hcontent
    rw [Disk.document, hgrows.read hread fun _ hlocate =>
      place_not_mem hname hread hlocate hready hnode]
    rfl

end Catalog

end MotionTutor
