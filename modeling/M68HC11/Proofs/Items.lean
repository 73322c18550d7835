import M68HC11.Proofs.Spellings
import Mathlib.Data.List.Induction
import Mathlib.Data.List.Perm.Basic

/-!
Options of which the last one counts.

What an option with a value sets is an item. Settings are what items make of those to
begin with, one after the other.

* `last?`: the last item of a kind, which makes up for those in front of it
  (`last?_superseded`) and which is the only one in every order if there is no other
  (`last?_of_perm`);
* `foldl_overwrite`, `foldl_collect`: a field that each item overwrites and one that
  each item adds to;
* `ImageItem`: what an option about images sets, with the ways in which it is written
  (`ImageItem.Writes`) and what such items say that settings are (`ImageItem.Says`).
-/

namespace M68HC11

open Text

variable {ι α β κ : Type}

/-! ### The items that count -/

/-- What the last item of a kind has. -/
def last? (pick : ι → Option κ) (items : List ι) : Option κ := (items.filterMap pick).getLast?

/-- An item does not count if another one of its kind is behind it. -/
lemma last?_superseded {pick : ι → Option κ} {item : ι} {back : List ι}
    (h : pick item = none ∨ ∃ later ∈ back, (pick later).isSome) (front : List ι) :
    last? pick (front ++ item :: back) = last? pick (front ++ back) := by
  rw [last?, last?, List.filterMap_append, List.filterMap_append]
  cases hitem : pick item with
  | none => rw [List.filterMap_cons_none hitem]
  | some first =>
      obtain ⟨later, hmem, hsome⟩ := h.resolve_left (by simp [hitem])
      obtain ⟨value, hvalue⟩ := Option.isSome_iff_exists.mp hsome
      have hne : back.filterMap pick ≠ [] :=
        List.ne_nil_of_mem (List.mem_filterMap.mpr ⟨later, hmem, hvalue⟩)
      rw [List.filterMap_cons_some hitem, List.getLast?_append_of_ne_nil _ hne,
        List.getLast?_append_of_ne_nil _ (List.cons_ne_nil _ _)]
      exact List.getLast?_append_of_ne_nil [first] hne

/-- What is not of a kind does not count among it. -/
lemma filterMap_skip {pick : ι → Option κ} {item : ι} (h : pick item = none)
    (front back : List ι) :
    (front ++ item :: back).filterMap pick = (front ++ back).filterMap pick := by
  rw [List.filterMap_append, List.filterMap_append, List.filterMap_cons_none h]

/-- What is there at most once is the last one in every order. -/
lemma last?_of_perm {pick : ι → Option κ} {items items' : List ι} {value? : Option κ}
    (h : items.Perm items') (hpick : items'.filterMap pick = value?.toList) :
    last? pick items = value? := by
  have hperm := h.filterMap pick
  rw [hpick] at hperm
  rw [last?]
  cases value? with
  | none =>
      rw [List.perm_nil.mp hperm]
      rfl
  | some value =>
      rw [List.perm_singleton.mp hperm]
      rfl

/-! ### Fields that items are put into -/

/-- What items put into a field is what those of one kind put there, if others leave
it alone. -/
lemma foldl_filterMap (put : α → ι → α) (get : α → β) (pick : ι → Option κ) (set : β → κ → β)
    (h : ∀ s item, get (put s item) = (pick item).elim (get s) (set (get s))) (s : α)
    (items : List ι) : get (items.foldl put s) = (items.filterMap pick).foldl set (get s) := by
  induction items generalizing s with
  | nil => rfl
  | cons item items ih =>
      rw [List.foldl_cons, ih, h]
      cases hpick : pick item with
      | none => rw [List.filterMap_cons_none hpick, Option.elim_none]
      | some value => rw [List.filterMap_cons_some hpick, Option.elim_some, List.foldl_cons]

/-- A field that is overwritten has the last value. -/
lemma foldl_overwrite (put : α → ι → α) (get : α → β) (pick : ι → Option κ) (f : κ → β)
    (h : ∀ s item, get (put s item) = (pick item).elim (get s) f) (s : α) (items : List ι) :
    get (items.foldl put s) = (last? pick items).elim (get s) f := by
  rw [foldl_filterMap put get pick (fun _ value => f value) h, last?]
  cases items.filterMap pick using List.reverseRecOn with
  | nil => rfl
  | append_singleton values value => rw [List.foldl_append, List.getLast?_concat]; rfl

/-- A list that is added to has all values in their order. -/
lemma foldl_collect (put : α → ι → α) (get : α → List κ) (pick : ι → Option κ)
    (h : ∀ s item, get (put s item) = (pick item).elim (get s) (get s ++ [·])) (s : α)
    (items : List ι) : get (items.foldl put s) = get s ++ items.filterMap pick := by
  rw [foldl_filterMap put get pick (fun list value => list ++ [value]) h]
  induction items.filterMap pick using List.reverseRecOn with
  | nil => exact (List.append_nil _).symm
  | append_singleton values value ih => rw [List.foldl_append, ih, ← List.append_assoc]; rfl

/-! ### Images -/

/-- What an option about images sets. -/
inductive ImageItem
  | format (f : ImageFormat)
  | origin (a : UInt16)

namespace ImageItem

/-- How an item is written. -/
def Writes : ImageItem → String → String → Prop
  | format f, option, value => option ∈ ["--format", "-f"] ∧ f.Named value
  | origin a, option, value => option = "--org" ∧ Address.Written a value

def format? : ImageItem → Option ImageFormat
  | format f => some f
  | _ => none

def origin? : ImageItem → Option UInt16
  | origin a => some a
  | _ => none

/-- The settings with an item put in. -/
def put (s : ImageSettings) : ImageItem → ImageSettings
  | format f => { s with format? := some f }
  | origin a => { s with origin := a }

/-- Of either option the last one counts. -/
structure Says (items : List ImageItem) (s : ImageSettings) : Prop where
  format : last? format? items = s.format?
  origin : (last? origin? items).getD ImageSettings.standard.origin = s.origin

/-- An option counts instead of the same one in front of it. -/
def Supersedes : ImageItem → ImageItem → Prop
  | format _, format _ | origin _, origin _ => True
  | _, _ => False

/-- Settings as items. -/
def ofSettings (s : ImageSettings) : List ImageItem :=
  s.format?.toList.map format ++ [origin s.origin]

variable {items front back : List ImageItem} {item : ImageItem} {s : ImageSettings}

/-- What items make of the settings of an image. -/
lemma foldl_put (items : List ImageItem) :
    items.foldl put .standard = ⟨last? format? items,
      (last? origin? items).getD ImageSettings.standard.origin⟩ := by
  have hformat := foldl_overwrite put ImageSettings.format? format? some
    (fun s item => by cases item <;> rfl) .standard items
  have horigin := foldl_overwrite put ImageSettings.origin origin? id
    (fun s item => by cases item <;> rfl) .standard items
  calc items.foldl put .standard
      = ⟨(items.foldl put .standard).format?, (items.foldl put .standard).origin⟩ := rfl
    _ = _ := by
      rw [hformat, horigin]
      cases last? format? items <;> cases last? origin? items <;> rfl

/-- Items say what putting them into the settings comes to. -/
lemma says_iff : Says items s ↔ items.foldl put .standard = s := by
  rw [foldl_put]
  cases s with
  | mk format? origin =>
      rw [ImageSettings.mk.injEq]
      exact ⟨fun h => ⟨h.format, h.origin⟩, fun h => ⟨h.1, h.2⟩⟩

/-- What counts instead of an item makes up for it. -/
lemma foldl_superseded (h : ∃ later ∈ back, Supersedes later item) :
    (front ++ item :: back).foldl put .standard = (front ++ back).foldl put .standard := by
  obtain ⟨later, hmem, hlater⟩ := h
  rw [foldl_put, foldl_put]
  cases item with
  | format f =>
      cases later with
      | format f' =>
          rw [last?_superseded (.inr ⟨_, hmem, rfl⟩), last?_superseded (.inl rfl)]
      | origin a => exact hlater.elim
  | origin a =>
      cases later with
      | format f => exact hlater.elim
      | origin a' =>
          rw [last?_superseded (.inl rfl), last?_superseded (.inr ⟨_, hmem, rfl⟩)]

/-- So it does for the items about images among those of a command. -/
lemma foldl_filterMap_superseded {pick : ι → Option ImageItem} {outer : ι} {back : List ι}
    (hpick : pick outer = some item) (h : ∃ later ∈ back.filterMap pick, Supersedes later item)
    (front : List ι) :
    ((front ++ outer :: back).filterMap pick).foldl put .standard =
      ((front ++ back).filterMap pick).foldl put .standard := by
  rw [List.filterMap_append, List.filterMap_append, List.filterMap_cons_some hpick]
  exact foldl_superseded h

/-- The items of settings say what they are, in every order. -/
lemma says_of_perm (h : items.Perm (ofSettings s)) : Says items s where
  format := last?_of_perm h (by cases s with | mk format? origin => cases format? <;> rfl)
  origin := by
    have horigin : last? origin? items = some s.origin :=
      last?_of_perm h (by cases s with | mk format? origin => cases format? <;> rfl)
    rw [horigin, Option.getD_some]

/-- Every item can be written. -/
lemma exists_writes (item : ImageItem) : ∃ option value, item.Writes option value := by
  cases item with
  | format f =>
      obtain ⟨value, hvalue⟩ := f.exists_named
      exact ⟨"--format", value, List.mem_cons_self, hvalue⟩
  | origin a =>
      obtain ⟨value, hvalue⟩ := Address.exists_written a
      exact ⟨"--org", value, rfl, hvalue⟩

/-- Options about images are accepted as they are written. -/
lemma accepts {option value : String} (h : item.Writes option value) :
    ∃ o, imageGrammar option = some o ∧ ∀ s, o.put s value = .ok (put s item) := by
  cases item with
  | format f =>
      obtain ⟨hoption, hvalue⟩ := h
      have hread := ImageFormat.readFormat_of_named hvalue
      simp only [List.mem_cons, List.not_mem_nil, or_false] at hoption
      exact ⟨_, if_pos hoption, fun s => congrArg (Except.map _) hread⟩
  | origin a =>
      obtain ⟨rfl, hvalue⟩ := h
      have hread := Address.readAddress_of_written hvalue
      exact ⟨_, (if_neg (by decide)).trans (if_pos rfl), fun s => congrArg (Except.map _) hread⟩

end ImageItem

end M68HC11
