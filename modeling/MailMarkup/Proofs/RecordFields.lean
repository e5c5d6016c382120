import Mathlib.Data.List.Forall2
import Mathlib.Data.List.Nodup
import Mathlib.Data.List.Pairwise
import MailMarkup.Record.Decode

namespace MailMarkup

namespace Json

def isLeaf : Json → Bool
  | .arr _ | .obj _ => false
  | _ => true

variable {fields : List (Text.Wide × Json)} {key : String}

theorem mem_of_field?_eq_some {j : Json} (h : field? fields key = some j) :
    ((key : Text.Wide), j) ∈ fields := by
  obtain ⟨⟨found, value⟩, hfind, rfl⟩ := Option.map_eq_some_iff.mp h
  have hkey : found = key := by simpa using List.find?_some hfind
  rw [← hkey]
  simpa using List.mem_of_find?_eq_some hfind

theorem field?_eq_none_iff :
    field? fields key = none ↔ (key : Text.Wide) ∉ fields.map Prod.fst := by
  simp only [field?, Option.map_eq_none_iff, List.find?_eq_none, List.mem_reverse, beq_iff_eq,
    List.mem_map, not_exists, not_and]

theorem exists_field?_eq_some {j : Json} (h : ((key : Text.Wide), j) ∈ fields) :
    ∃ j', field? fields key = some j' := by
  rw [← Option.ne_none_iff_exists', ne_eq, field?_eq_none_iff, not_not]
  exact List.mem_map_of_mem h

theorem field?_filter_ne {other : Text.Wide} (h : (key : Text.Wide) ≠ other) :
    field? (fields.filter (·.1 ≠ other)) key = field? fields key := by
  rw [field?, field?, ← List.filter_reverse, List.find?_filter]
  congr 2
  funext e
  by_cases hkey : e.1 = key
  · simp [hkey, h]
  · simp [hkey]

end Json

namespace Record

def names (aliases : List (String × String)) (key : Text.Wide) : List Text.Wide :=
  key :: (aliases.filter fun a => (a.1 : Text.Wide) = key).map fun a => (a.2 : Text.Wide)

def DistinctNames (aliases : List (String × String)) (keys : List Text.Wide) : Prop :=
  (keys.flatMap (names aliases)).Nodup

instance (aliases : List (String × String)) (keys : List Text.Wide) :
    Decidable (DistinctNames aliases keys) :=
  inferInstanceAs (Decidable (List.Nodup _))

/-- An object has the fields of another: each under one of its names, in any order, and among others
whose keys the fields neither have nor use. -/
structure Rearranges (aliases : List (String × String))
    (written renamed others fields : List (Text.Wide × Json)) : Prop where
  renames : List.Forall₂ (fun e e' => e'.1 ∈ names aliases e.1) written renamed
  free : ∀ o ∈ others, o.1 ∉ written.map Prod.fst ∧ o.1 ∉ renamed.map Prod.fst
  perm : fields.Perm (renamed ++ others)

/-- A value says what another says: it differs from it only in how the fields of its objects are
arranged, in each of them in its own way. -/
inductive Respells (aliases : List (String × String)) : Json → Json → Prop
  | same (j : Json) : Respells aliases j j
  | items {items items' : List Json} :
      List.Forall₂ (Respells aliases) items items' → Respells aliases (.arr items) (.arr items')
  | fields {written renamed others fields : List (Text.Wide × Json)} :
      Rearranges aliases written renamed others fields →
      List.Forall₂ (fun e e' => Respells aliases e.2 e'.2) written renamed →
        Respells aliases (.obj written) (.obj fields)

namespace Respells

variable {aliases : List (String × String)} {j : Json}

theorem eq_of_isLeaf {leaf : Json} (h : Respells aliases leaf j) (hleaf : leaf.isLeaf = true) :
    j = leaf := by
  cases h with
  | same => rfl
  | items => cases hleaf
  | fields => cases hleaf

theorem of_items {items : List Json} (h : Respells aliases (.arr items) j) :
    ∃ items', j = .arr items' ∧ List.Forall₂ (Respells aliases) items items' := by
  cases h with
  | same => exact ⟨items, rfl, List.forall₂_same.mpr fun item _ => .same item⟩
  | items h => exact ⟨_, rfl, h⟩

theorem of_fields {written : List (Text.Wide × Json)} (h : Respells aliases (.obj written) j) :
    ∃ renamed others fields, j = .obj fields ∧
      Rearranges aliases written renamed others fields ∧
      List.Forall₂ (fun e e' => Respells aliases e.2 e'.2) written renamed := by
  cases h with
  | same =>
    have hnames : List.Forall₂ (fun e e' => e'.1 ∈ names aliases e.1) written written :=
      List.forall₂_same.mpr fun e _ => List.mem_cons_self
    exact ⟨written, [], written, rfl, ⟨hnames, by simp, by simp⟩,
      List.forall₂_same.mpr fun e _ => .same e.2⟩
  | fields harranged hvalues => exact ⟨_, _, _, rfl, harranged, hvalues⟩

end Respells

section Related

variable {α β : Type} {R : α → β → Prop} {as : List α} {bs : List β}

theorem exists_of_mem_left (h : List.Forall₂ R as bs) {a : α} (ha : a ∈ as) : ∃ b ∈ bs, R a b := by
  induction h with
  | nil => cases ha
  | @cons a' b as bs hab _ ih =>
    rcases List.mem_cons.mp ha with rfl | ha
    · exact ⟨b, List.mem_cons_self, hab⟩
    · obtain ⟨b', hb', hab'⟩ := ih ha
      exact ⟨b', List.mem_cons_of_mem b hb', hab'⟩

theorem exists_of_mem_right (h : List.Forall₂ R as bs) {b : β} (hb : b ∈ bs) : ∃ a ∈ as, R a b :=
  exists_of_mem_left (List.Forall₂.flip (R := flip R) h) hb

end Related

def Field.Follows {α : Type} (field : Field α) (aliases : List (String × String)) : Prop :=
  ∀ a ∈ aliases, field.publicName ≠ a.2 ∧ (field.publicName = a.1 ↔ field.plainName = a.2)

instance {α : Type} (field : Field α) (aliases : List (String × String)) :
    Decidable (field.Follows aliases) :=
  inferInstanceAs (Decidable (∀ a ∈ aliases, _))

/-- Where a field stands under both its names, the plain one does not matter: objects that differ
only in what they hold there are read alike, and are refused alike. -/
def PublicNameDecides {α : Type} (aliases : List (String × String)) (decode : Decoder α) : Prop :=
  ∀ a ∈ aliases, ∀ fields fields' : List (Text.Wide × Json),
    (a.1 : Text.Wide) ∈ fields.map Prod.fst →
    fields.filter (·.1 ≠ (a.2 : Text.Wide)) = fields'.filter (·.1 ≠ (a.2 : Text.Wide)) →
      decode (.obj fields) = decode (.obj fields')

section Read

variable {α : Type} {field : Field α} {aliases : List (String × String)}

theorem Field.Follows.eq_of_mem_names (h : field.Follows aliases) {key : Text.Wide}
    (hkey : key ∈ names aliases field.publicName) :
    key = field.publicName ∨ key = field.plainName := by
  rcases List.mem_cons.mp hkey with hpublic | hplain
  · exact Or.inl hpublic
  · obtain ⟨a, ha, rfl⟩ := List.mem_map.mp hplain
    obtain ⟨hmem, hname⟩ := List.mem_filter.mp ha
    have hname : field.publicName = a.1 := by simpa [eq_comm] using hname
    rw [(h a hmem).2.mp hname]
    exact Or.inr rfl

variable {R : Json → Json → Prop} {written renamed others fields : List (Text.Wide × Json)}

theorem DistinctNames.eq_of_mem_names (hnames : DistinctNames aliases (written.map Prod.fst))
    {e e' : Text.Wide × Json} (he : e ∈ written) (he' : e' ∈ written) {key : Text.Wide}
    (hkey : key ∈ names aliases e.1) (hkey' : key ∈ names aliases e'.1) : e = e' := by
  rw [DistinctNames, List.flatMap_map, List.nodup_flatMap] at hnames
  have hsymm : Std.Symm (Function.onFun List.Disjoint fun e : Text.Wide × Json =>
      names aliases e.1) := ⟨fun _ _ h => List.disjoint_symm h⟩
  by_contra hne
  exact hnames.2.forall he he' hne hkey hkey'

namespace Rearranges

variable (h : Rearranges aliases written renamed others fields)
  (hvalues : List.Forall₂ (fun e e' => R e.2 e'.2) written renamed)
  (hnames : DistinctNames aliases (written.map Prod.fst))

include h hvalues hnames

theorem related_of_mem {e : Text.Wide × Json} (he : e ∈ written) {key : Text.Wide} {j : Json}
    (hj : (key, j) ∈ fields) (hkey : key ∈ names aliases e.1)
    (hused : key ∈ written.map Prod.fst ∨ key ∈ renamed.map Prod.fst) : R e.2 j := by
  rcases List.mem_append.mp (h.perm.mem_iff.mp hj) with hrenamed | hother
  · have hboth := h.renames.mp (fun _ _ => And.intro) hvalues
    obtain ⟨e', he', hkey', hvalue⟩ := exists_of_mem_right hboth hrenamed
    rw [hnames.eq_of_mem_names he he' hkey hkey']
    exact hvalue
  · exact absurd hused (not_or.mpr (h.free _ hother))

theorem read_eq_ok (hfield : field.Follows aliases) {j : Json}
    (hj : ((field.publicName : Text.Wide), j) ∈ written) {a : α}
    (hdecode : ∀ j', R j j' → field.decode j' = .ok a) : field.read fields = .ok a := by
  have hwritten : (field.publicName : Text.Wide) ∈ written.map Prod.fst :=
    List.mem_map_of_mem hj
  cases hpublic : Json.field? fields field.publicName with
  | some j' =>
    have hvalue : R j j' := h.related_of_mem hvalues hnames hj
      (Json.mem_of_field?_eq_some hpublic) List.mem_cons_self (Or.inl hwritten)
    simp only [Field.read, hpublic, hdecode j' hvalue, Decoded.within]
  | none =>
    -- the field stands somewhere, so it stands under its plain name
    obtain ⟨⟨key, value⟩, hrenamed, hkey⟩ := exists_of_mem_left h.renames hj
    have hmem : (key, value) ∈ fields := h.perm.mem_iff.mpr (List.mem_append_left others hrenamed)
    obtain rfl : key = field.plainName := by
      refine (hfield.eq_of_mem_names hkey).resolve_left ?_
      rintro rfl
      exact Json.field?_eq_none_iff.mp hpublic (List.mem_map_of_mem hmem)
    obtain ⟨j', hplain⟩ := Json.exists_field?_eq_some hmem
    have hvalue : R j j' := h.related_of_mem hvalues hnames hj
      (Json.mem_of_field?_eq_some hplain) hkey (Or.inr (List.mem_map_of_mem hrenamed))
    simp only [Field.read, hpublic, hplain, hdecode j' hvalue, Decoded.within]

end Rearranges

def ReadsAs (aliases : List (String × String)) (written fields : List (Text.Wide × Json)) : Prop :=
  ∀ {β : Type} (field : Field β) (i : Json) (b : β), field.Follows aliases →
    ((field.publicName : Text.Wide), i) ∈ written →
      (∀ i', Respells aliases i i' → field.decode i' = .ok b) → field.read fields = .ok b

theorem Respells.exists_readsAs {j : Json} (h : Respells aliases (.obj written) j)
    (hnames : DistinctNames aliases (written.map Prod.fst)) :
    ∃ fields, j = .obj fields ∧ ReadsAs aliases written fields := by
  obtain ⟨renamed, others, fields, rfl, harranged, hvalues⟩ := h.of_fields
  refine ⟨fields, rfl, ?_⟩
  intro β field i b hfield hi hdecode
  exact harranged.read_eq_ok hvalues hnames hfield hi hdecode

theorem ReadsAs.leaf (h : ReadsAs aliases written fields) (hfield : field.Follows aliases)
    {i : Json} (hi : ((field.publicName : Text.Wide), i) ∈ written) (hleaf : i.isLeaf = true)
    {a : α} (hdecode : field.decode i = .ok a) : field.read fields = .ok a := by
  apply h field i a hfield hi
  intro i' hi'
  rw [hi'.eq_of_isLeaf hleaf]
  exact hdecode

theorem Field.Follows.read_congr {fields' : List (Text.Wide × Json)}
    (hfield : field.Follows aliases) {a : String × String} (ha : a ∈ aliases)
    (hpublic : (a.1 : Text.Wide) ∈ fields.map Prod.fst)
    (hsame : fields.filter (·.1 ≠ (a.2 : Text.Wide)) = fields'.filter (·.1 ≠ (a.2 : Text.Wide))) :
    field.read fields = field.read fields' := by
  have hfound {key : String} (hkey : key ≠ a.2) :
      Json.field? fields key = Json.field? fields' key := by
    have hne : (key : Text.Wide) ≠ (a.2 : Text.Wide) := by simpa using hkey
    rw [← Json.field?_filter_ne hne, hsame, Json.field?_filter_ne hne]
  obtain ⟨hnot, hiff⟩ := hfield a ha
  rw [Field.read, Field.read, hfound hnot]
  cases hread : Json.field? fields' field.publicName with
  | some j => rfl
  | none =>
    have hplain : field.plainName ≠ a.2 := by
      intro hplain
      rw [← hfound hnot, hiff.mpr hplain, Json.field?_eq_none_iff] at hread
      exact hread hpublic
    rw [hfound hplain]

theorem list_eq_ok {decode : Decoder α} {as : List α} {items : List Json}
    (h : List.Forall₂ (fun a j => decode j = .ok a) as items) :
    list decode (.arr items) = .ok as := by
  have hdecoded (n : Nat) : ((items.zipIdx n).map fun numbered =>
      (decode numbered.1).within (.index numbered.2)) = as.map Except.ok := by
    induction h generalizing n with
    | nil => rfl
    | cons hdecode _ ih =>
      rw [List.zipIdx_cons, List.map_cons, List.map_cons, ih]
      simp only [hdecode, Decoded.within]
  have hfaults : (as.map Except.ok).flatMap Decoded.faults = [] := by
    simp [List.flatMap_map, Decoded.faults]
  simp only [list, hdecoded, hfaults]
  simp [List.filterMap_map, Function.comp_def, Except.toOption]

end Read

end Record

end MailMarkup
