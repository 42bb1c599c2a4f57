import Mathlib.Data.List.Forall2
import OmniLayer.Settings

/-! # Setting trees that agree but for one text

Two settings are the same but for a text at a path (`Setting.SameBut`) when they are equal, apart
from the texts that stand under the keys of the path. Nothing that gathers settings looks at such a
text: sources that are the same but for it, written over trees that are the same but for it, give
trees that are again the same but for it (`Settings.sameBut_writeSource`). -/

namespace OmniLayer

/-! ## Keys without case -/

namespace Text

/-- What is no capital letter stays as it is. -/
theorem lowerToAscii_of_not_capital {c : Char} (hkelvin : c.toNat ≠ 0x212a)
    (hcapital : c.toNat < 'A'.toNat ∨ 'Z'.toNat < c.toNat) : lowerToAscii c = c := by
  rw [lowerToAscii, if_neg hkelvin]
  refine dif_neg fun h => ?_
  have hA : 'A'.toNat ≤ c.toNat := h.1
  have hZ : c.toNat ≤ 'Z'.toNat := h.2
  omega

/-- A character in lower case stays as it is. -/
@[simp] theorem lowerToAscii_lowerToAscii (c : Char) :
    lowerToAscii (lowerToAscii c) = lowerToAscii c := by
  by_cases hkelvin : c.toNat = 0x212a
  · have hk : lowerToAscii c = 'k' := if_pos hkelvin
    rw [hk]
    decide
  by_cases hcapital : c.val ≥ 'A'.val ∧ c.val ≤ 'Z'.val
  · -- The small letter of a capital one stands 32 places behind it, past all capitals.
    have hA : 65 ≤ c.toNat := hcapital.1
    have hZ : c.toNat ≤ 90 := hcapital.2
    have hsmall : (lowerToAscii c).toNat = c.toNat + 32 := by
      have hlower : c.toLower = ⟨c.val + ('a'.val - 'A'.val), _⟩ := dif_pos hcapital
      rw [lowerToAscii, if_neg hkelvin, hlower]
      show (c.val + ('a'.val - 'A'.val)).toNat = _
      have hsum : (c.val + ('a'.val - 'A'.val)).toNat = (c.toNat + 32) % 2 ^ 32 :=
        UInt32.toNat_add ..
      omega
    refine lowerToAscii_of_not_capital (by omega) (.inr ?_)
    have hlast : 'Z'.toNat = 90 := rfl
    omega
  · have hself : lowerToAscii c = c := by
      rw [lowerToAscii, if_neg hkelvin]
      exact dif_neg hcapital
    rw [hself, hself]

/-- A text in lower case stays as it is. -/
@[simp] theorem lower_lower (text : String) : lower (lower text) = lower text := by
  simp only [lower, String.toList_ofList, List.map_map]
  congr 1
  exact List.map_congr_left fun c _ => lowerToAscii_lowerToAscii c

/-- A character that has no capital form is found in the lower case of a text. -/
theorem mem_lower {c : Char} {text : String} (h : c ∈ text.toList) (hself : lowerToAscii c = c) :
    c ∈ (lower text).toList := by
  rw [lower, String.toList_ofList]
  exact List.mem_map.2 ⟨c, h, hself⟩

end Text

namespace Setting

/-! ## The same but for a text -/

/-- Settings that are **the same but for a text** at the end of a path of keys. -/
def SameBut : (path : List String) → Setting → Setting → Prop
  | [], v, w => v = w ∨ ∃ s t, v = .text s ∧ w = .text t
  | key :: path, v, w => v = w ∨ ∃ fs gs, v = .table fs ∧ w = .table gs ∧
      List.Forall₂ (fun x y => x.1 = y.1 ∧
        (x.2 = y.2 ∨ Text.lower x.1 = key ∧ SameBut path x.2 y.2)) fs gs

/-- Settings that are the same but for what a path may lead to **through** a key. -/
def SameUnder (path : List String) (key : String) (v w : Setting) : Prop :=
  v = w ∨ ∃ rest, path = key :: rest ∧ SameBut rest v w

/-- **Fields** with the same keys and, under each, settings that are the same but for the path. -/
def SameFields (path : List String) (fs gs : List (String × Setting)) : Prop :=
  List.Forall₂ (fun x y => x.1 = y.1 ∧ SameUnder path (Text.lower x.1) x.2 y.2) fs gs

variable {path : List String} {key : String} {v w tree tree' : Setting}
  {fs gs : List (String × Setting)}

/-- Equal settings are the same but for any text. -/
theorem SameBut.refl (path : List String) (v : Setting) : SameBut path v v := by
  cases path with
  | nil => exact .inl rfl
  | cons key path => exact .inl rfl

/-- Equal settings are the same through every key. -/
theorem SameUnder.refl (path : List String) (key : String) (v : Setting) :
    SameUnder path key v v := .inl rfl

/-- Equal fields are the same but for any text. -/
theorem SameFields.refl (path : List String) (fs : List (String × Setting)) :
    SameFields path fs fs :=
  List.forall₂_same.2 fun _ _ => ⟨rfl, .inl rfl⟩

/-- No path leads on from its end. -/
@[simp] theorem sameUnder_nil_iff : SameUnder [] key v w ↔ v = w := by
  simp [SameUnder]

/-- Through the first key of a path, the rest of it leads on. -/
@[simp] theorem sameUnder_cons_self_iff : SameUnder (key :: path) key v w ↔ SameBut path v w := by
  constructor
  · rintro (rfl | ⟨rest, hrest, h⟩)
    · exact .refl path v
    · cases hrest
      exact h
  · exact fun h => .inr ⟨path, rfl, h⟩

/-- Through any other key, settings are equal. -/
theorem SameUnder.eq_of_ne {first : String} (h : SameUnder (first :: path) key v w)
    (hne : key ≠ first) : v = w := by
  obtain h | ⟨rest, hrest, -⟩ := h
  · exact h
  · cases hrest
    exact absurd rfl hne

/-- Tables are the same but for a text when their fields are. -/
theorem SameFields.table (h : SameFields path fs gs) : SameBut path (.table fs) (.table gs) := by
  cases path with
  | nil =>
    have heq : fs = gs := by
      induction h with
      | nil => rfl
      | cons hxy _ ih => rw [Prod.ext hxy.1 (sameUnder_nil_iff.1 hxy.2), ih]
    exact .inl (congrArg Setting.table heq)
  | cons key path =>
    refine .inr ⟨fs, gs, rfl, rfl, h.imp ?_⟩
    rintro x y ⟨hkey, hsame⟩
    refine ⟨hkey, hsame.imp_right ?_⟩
    rintro ⟨rest, hrest, hsame⟩
    cases hrest
    exact ⟨rfl, hsame⟩

/-- The fields of settings that are the same but for a text are so, too: a text has none. -/
theorem SameBut.fields (h : SameBut path v w) : SameFields path v.fields w.fields := by
  cases path with
  | nil =>
    obtain rfl | ⟨s, t, rfl, rfl⟩ := h
    · exact .refl [] _
    · exact .nil
  | cons key path =>
    obtain rfl | ⟨fs, gs, rfl, rfl, h⟩ := h
    · exact .refl _ _
    · refine h.imp ?_
      rintro x y ⟨hkey, hsame⟩
      refine ⟨hkey, hsame.imp_right ?_⟩
      rintro ⟨rfl, hrest⟩
      exact ⟨path, rfl, hrest⟩

/-- Settings that are the same but for a text have the same members: a text has none. -/
theorem SameBut.items (h : SameBut path v w) : v.items = w.items := by
  cases path with
  | nil =>
    obtain rfl | ⟨s, t, rfl, rfl⟩ := h
    · rfl
    · rfl
  | cons key path =>
    obtain rfl | ⟨fs, gs, rfl, rfl, -⟩ := h
    · rfl
    · rfl

/-- What settings are made into is the same through a key when it is the same but for what is left
of the path behind it. -/
theorem SameUnder.map {f : Setting → Setting} (htree : SameUnder path key tree tree')
    (hf : ∀ rest, path = key :: rest → SameBut rest tree tree' → SameBut rest (f tree) (f tree')) :
    SameUnder path key (f tree) (f tree') := by
  obtain rfl | ⟨rest, hrest, htree⟩ := htree
  · exact .inl rfl
  · exact .inr ⟨rest, hrest, hf rest hrest htree⟩

/-- What two settings are made into is the same through a key when it is the same but for what is
left of the path behind it. -/
theorem SameUnder.map₂ {f : Setting → Setting → Setting} (hvw : SameUnder path key v w)
    (htree : SameUnder path key tree tree')
    (hf : ∀ rest, path = key :: rest → SameBut rest v w → SameBut rest tree tree' →
      SameBut rest (f v tree) (f w tree')) :
    SameUnder path key (f v tree) (f w tree') := by
  obtain rfl | ⟨rest, rfl, hvw⟩ := hvw
  · obtain rfl | ⟨rest, rfl, htree⟩ := htree
    · exact .inl rfl
    · exact .inr ⟨rest, rfl, hf rest rfl (.refl rest v) htree⟩
  · exact .inr ⟨rest, rfl, hf rest rfl hvw (sameUnder_cons_self_iff.1 htree)⟩

/-! ## Reading and writing fields -/

/-- Under a key in lower case there is nothing on either side, or the same on both but for the
path. -/
theorem SameFields.find? (h : SameFields path fs gs) (hkey : Text.lower key = key) :
    Option.Rel (SameUnder path key) (find? key fs) (find? key gs) := by
  induction h with
  | nil => exact .none
  | @cons x y fs gs hxy _ ih =>
    obtain ⟨k, v⟩ := x
    obtain ⟨k', w⟩ := y
    obtain ⟨rfl, hvw⟩ : k = k' ∧ SameUnder path (Text.lower k) v w := hxy
    unfold Setting.find?
    by_cases hk : k = key
    · rw [if_pos hk, if_pos hk]
      rw [hk, hkey] at hvw
      exact .some hvw
    · rw [if_neg hk, if_neg hk]
      exact ih

/-- The same with a setting that stands in for a missing one. -/
theorem SameFields.find?_getD (h : SameFields path fs gs) (hkey : Text.lower key = key)
    (default : Setting) :
    SameUnder path key ((Setting.find? key fs).getD default)
      ((Setting.find? key gs).getD default) := by
  have hrel := h.find? hkey
  generalize Setting.find? key fs = a, Setting.find? key gs = b at hrel ⊢
  cases hrel with
  | none => exact .inl rfl
  | some hvw => exact hvw

/-- Settings that are the same through a key, written there, leave fields the same. -/
theorem SameFields.put (h : SameFields path fs gs) (hkey : Text.lower key = key)
    (hvw : SameUnder path key v w) : SameFields path (put key v fs) (put key w gs) := by
  induction h with
  | nil => exact .cons ⟨rfl, hkey.symm ▸ hvw⟩ .nil
  | @cons x y fs gs hxy hrest ih =>
    obtain ⟨k, v'⟩ := x
    obtain ⟨k', w'⟩ := y
    obtain ⟨rfl, hvw'⟩ : k = k' ∧ SameUnder path (Text.lower k) v' w' := hxy
    unfold Setting.put
    by_cases hk : k = key
    · rw [if_pos hk, if_pos hk]
      subst hk
      exact .cons ⟨rfl, hkey.symm ▸ hvw⟩ hrest
    · rw [if_neg hk, if_neg hk]
      exact .cons ⟨rfl, hvw'⟩ ih

/-! ## Writing settings over a tree -/

/-- What a setting becomes over the one that was there: tables are **merged**. -/
def merged (value target : Setting) : Setting :=
  match value with
  | .table incoming => assignAll incoming target
  | value => value

/-- A setting is merged with what stands under the key. -/
theorem assign_eq (key : String) (value tree : Setting) :
    assign key value tree = .table (put (Text.lower key)
      (merged value ((find? (Text.lower key) tree.fields).getD (.table []))) tree.fields) := by
  cases value with
  | table incoming => rw [assign, merged]
  | _ => rfl

/-- Merging keeps settings the same but for a text, if writing fields in turn does. -/
theorem SameBut.merged
    (hall : ∀ {fs gs tree tree'}, SameFields path fs gs → SameBut path tree tree' →
      SameBut path (assignAll fs tree) (assignAll gs tree'))
    (hvw : SameBut path v w) (htree : SameBut path tree tree') :
    SameBut path (merged v tree) (merged w tree') := by
  have hself (v : Setting) : SameBut path (Setting.merged v tree) (Setting.merged v tree') := by
    cases v with
    | table incoming => exact hall (.refl path incoming) htree
    | _ => exact .refl path _
  cases path with
  | nil =>
    obtain rfl | ⟨s, t, rfl, rfl⟩ := hvw
    · exact hself v
    · exact .inr ⟨s, t, rfl, rfl⟩
  | cons key path =>
    have hfields := hvw.fields
    obtain rfl | ⟨fs, gs, rfl, rfl, -⟩ := hvw
    · exact hself v
    · exact hall hfields htree

/-- Writing fields in turn keeps trees the same but for a text, if writing under a key does. -/
theorem SameBut.assignAll_of_assign
    (hassign : ∀ {key v w tree tree'}, SameUnder path (Text.lower key) v w →
      SameBut path tree tree' → SameBut path (assign key v tree) (assign key w tree'))
    (hfields : SameFields path fs gs) (htree : SameBut path tree tree') :
    SameBut path (assignAll fs tree) (assignAll gs tree') := by
  induction hfields generalizing tree tree' with
  | nil => exact htree
  | @cons x y fs gs hxy _ ih =>
    obtain ⟨k, v⟩ := x
    obtain ⟨k', w⟩ := y
    obtain ⟨rfl, hvw⟩ : k = k' ∧ SameUnder path (Text.lower k) v w := hxy
    exact ih (hassign hvw htree)

/-- Settings that are the same through a key, **written under it**, keep trees the same but for a
text. -/
theorem SameBut.assign (hvw : SameUnder path (Text.lower key) v w)
    (htree : SameBut path tree tree') :
    SameBut path (assign key v tree) (assign key w tree') := by
  -- The fields of a table are merged behind the key, where the path is shorter.
  induction path generalizing key v w tree tree' with
  | nil =>
    rw [assign_eq, assign_eq]
    exact (htree.fields.put (Text.lower_lower key) (hvw.map₂
      (htree.fields.find?_getD (Text.lower_lower key) _) fun rest hrest => by cases hrest)).table
  | cons first path ih =>
    rw [assign_eq, assign_eq]
    refine (htree.fields.put (Text.lower_lower key) (hvw.map₂
      (htree.fields.find?_getD (Text.lower_lower key) _) fun rest hrest => ?_)).table
    cases hrest
    exact SameBut.merged (SameBut.assignAll_of_assign ih)

/-- A path that goes on behind a key changes what stands under the key. -/
theorem assignAt_key_cons (value : Setting) (name : String) (next : Step) (steps : List Step)
    (tree : Setting) :
    assignAt value (.key name :: next :: steps) tree = .table (put (Text.lower name)
      (assignAt value (next :: steps) ((find? (Text.lower name) tree.fields).getD missing))
      tree.fields) := rfl

/-- One setting, written at the end of any path, keeps trees the same but for a text. -/
theorem SameBut.assignAt (value : Setting) (steps : List Step) (htree : SameBut path tree tree') :
    SameBut path (assignAt value steps tree) (assignAt value steps tree') := by
  induction steps generalizing path tree tree' with
  | nil => exact .refl path value
  | cons step steps ih =>
    cases step with
    | index index =>
      rw [Setting.assignAt, Setting.assignAt, htree.items]
      exact .refl path _
    | key name =>
      cases steps with
      | nil => exact SameBut.assign (.refl path _ value) htree
      | cons next steps =>
        rw [assignAt_key_cons, assignAt_key_cons]
        have hinner := htree.fields.find?_getD (Text.lower_lower name) missing
        refine (htree.fields.put (Text.lower_lower name) ?_).table
        exact hinner.map fun rest _ h => ih h

/-- Settings that are the same but for what is left of a path, written at the end of the **keys
before that**, keep trees the same but for the text. -/
theorem SameBut.assignAt_keys (names : List String) (hvw : SameBut path v w)
    (htree : SameBut (names.map Text.lower ++ path) tree tree') :
    SameBut (names.map Text.lower ++ path) (Setting.assignAt v (names.map Step.key) tree)
      (Setting.assignAt w (names.map Step.key) tree') := by
  induction names generalizing tree tree' with
  | nil => exact hvw
  | cons name names ih =>
    cases names with
    | nil => exact SameBut.assign (sameUnder_cons_self_iff.2 hvw) htree
    | cons next names =>
      have hinner := htree.fields.find?_getD (Text.lower_lower name) missing
      exact (htree.fields.put (Text.lower_lower name)
        (sameUnder_cons_self_iff.2 (ih (sameUnder_cons_self_iff.1 hinner)))).table

/-! ## Sources -/

/-- Settings that a **source** has under a key, which may be a path, and that are the same but for
what is left of another path behind it. -/
def SameAlong (path : List String) (steps : List Step) (v w : Setting) : Prop :=
  v = w ∨ ∃ (names : List String) (rest : List String), steps = names.map Step.key ∧
    path = names.map Text.lower ++ rest ∧ SameBut rest v w

/-- **Sources** that are the same but for a text. -/
def SameSource (path : List String) (source source' : List (String × Setting)) : Prop :=
  List.Forall₂ (fun x y => x.1 = y.1 ∧ SameAlong path (SettingPath.ofKey x.1) x.2 y.2) source
    source'

/-- Equal sources are the same but for any text. -/
theorem SameSource.refl (path : List String) (source : List (String × Setting)) :
    SameSource path source source :=
  List.forall₂_same.2 fun _ _ => ⟨rfl, .inl rfl⟩

/-- A key **without dots and brackets** is one name. -/
theorem ofKey_of_plain (hdot : '.' ∉ key.toList) (hbracket : '[' ∉ key.toList) :
    SettingPath.ofKey key = [.key key] := by
  have happend := List.takeWhile_append_dropWhile (p := SettingPath.isNameChar) (l := key.toList)
  rw [SettingPath.ofKey, SettingPath.name?]
  cases hname : key.toList.takeWhile SettingPath.isNameChar with
  | nil => rfl
  | cons c cs =>
    rw [hname] at happend
    cases hrest : key.toList.dropWhile SettingPath.isNameChar with
    | nil =>
      -- The whole key is a name.
      have hkey : String.ofList (c :: cs) = key := by
        rw [← String.ofList_toList (s := key), ← happend, hrest, List.append_nil]
      simp [SettingPath.steps?, hkey]
    | cons d ds =>
      -- Nothing but a dot or a bracket goes on behind a name.
      have hmem : d ∈ key.toList := by
        rw [← happend, hrest]
        simp
      have hd : d ≠ '.' := fun h => hdot (h ▸ hmem)
      have hd' : d ≠ '[' := fun h => hbracket (h ▸ hmem)
      simp [SettingPath.steps?, hd, hd']

/-- Fields of a tree that are the same but for a text are also such sources, if the path begins with
a plain key. -/
theorem SameFields.toSource (hdot : '.' ∉ key.toList) (hbracket : '[' ∉ key.toList)
    (h : SameFields (key :: path) fs gs) : SameSource (key :: path) fs gs := by
  refine h.imp ?_
  rintro ⟨k, v⟩ ⟨k', w⟩ ⟨hkey, hvw⟩
  refine ⟨hkey, ?_⟩
  obtain hvw | ⟨rest, hrest, hvw⟩ := hvw
  · exact .inl hvw
  · obtain ⟨rfl, rfl⟩ : key = Text.lower k ∧ path = rest := by simpa using hrest
    refine .inr ⟨[k], path, ofKey_of_plain (fun h => hdot ?_) fun h => hbracket ?_, rfl, hvw⟩
    · exact Text.mem_lower h (by decide)
    · exact Text.mem_lower h (by decide)

end Setting

namespace Settings

open Setting

variable {path : List String} {tree tree' : Setting} {source source' : List (String × Setting)}

/-- **Writing sources** that are the same but for a text keeps trees the same but for it. -/
theorem sameBut_writeSource (hsource : SameSource path source source')
    (htree : SameBut path tree tree') :
    SameBut path (writeSource tree source) (writeSource tree' source') := by
  induction hsource generalizing tree tree' with
  | nil => exact htree
  | @cons x y source source' hxy _ ih =>
    obtain ⟨k, v⟩ := x
    obtain ⟨k', w⟩ := y
    obtain ⟨rfl, hvw⟩ : k = k' ∧ SameAlong path (SettingPath.ofKey k) v w := hxy
    refine ih ?_
    dsimp only
    obtain rfl | ⟨names, rest, hsteps, rfl, hvw⟩ := hvw
    · exact htree.assignAt v _
    · rw [hsteps]
      exact hvw.assignAt_keys names htree

end Settings

end OmniLayer
