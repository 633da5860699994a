import Mathlib.Data.List.Nodup
import Mathlib.Tactic.Common

/-!
# Columns and the changes of a table

The definition of a table of a relational database, its rows, and the changes of a definition that
migrate them. Columns that are added, dropped or given another type leave a row in the columns of
the new definition: `refit`.
-/

namespace Ddl
variable {ν τ υ : Type}

structure Column (ν τ υ : Type) where
  name : ν
  type : τ
  nullable : Bool
  /-- `none` is NULL. -/
  serverDefault : Option υ
deriving DecidableEq

/-- A foreign key with ON DELETE CASCADE. -/
structure Reference (ν : Type) where
  column : ν
  /-- The column holds the primary key of a row of this table. -/
  table : ν
deriving DecidableEq

structure Index (ν : Type) where
  name : ν
  columns : List ν
  unique : Bool
deriving DecidableEq

/-- A table without its rows. -/
structure Definition (ν τ υ : Type) where
  columns : List (Column ν τ υ)
  primaryKey : ν
  references : List (Reference ν)
  indexes : List (Index ν)
deriving DecidableEq

def Definition.names (D : Definition ν τ υ) : List ν :=
  D.columns.map Column.name

/-- The columns have different names, and those of the keys are among them. -/
structure Definition.Sound (D : Definition ν τ υ) : Prop where
  nodup : D.names.Nodup
  key : D.primaryKey ∈ D.names
  references : ∀ r ∈ D.references, r.column ∈ D.names

instance [DecidableEq ν] (D : Definition ν τ υ) : Decidable D.Sound :=
  decidable_of_iff
    (D.names.Nodup ∧ D.primaryKey ∈ D.names ∧ ∀ r ∈ D.references, r.column ∈ D.names)
    ⟨fun h => ⟨h.1, h.2.1, h.2.2⟩, fun h => ⟨h.nodup, h.key, h.references⟩⟩

/-- The value in each column. -/
abbrev Row (ν υ : Type) := List (ν × Option υ)

/-! ## Maps that may fail -/

/-- One map after the other. -/
lemma mapM_bind {α β γ : Type} (f : α → Option β) (g : β → Option γ) (l : List α) :
    (l.mapM f).bind (fun l' => l'.mapM g) = l.mapM fun a => (f a).bind g := by
  induction l with
  | nil => rfl
  | cons a l ih =>
    rw [List.mapM_cons, List.mapM_cons, ← ih]
    cases f a with
    | none => rfl
    | some b =>
      cases l.mapM f with
      | none =>
        cases hg : g b with
        | none => simp [hg]
        | some c => simp [hg]
      | some l' => simp [List.mapM_cons]

/-- The keys of a dict stay under a map of its values. -/
lemma keys_mapM {α β : Type} {f : ν × α → Option β} {l : List (ν × α)} {l' : List (ν × β)}
    (h : l.mapM (fun p => (f p).map (Prod.mk p.1)) = some l') :
    l'.map Prod.fst = l.map Prod.fst := by
  induction l generalizing l' with
  | nil =>
    cases h
    rfl
  | cons p l ih =>
    rw [List.mapM_cons] at h
    obtain ⟨p', hp, h⟩ := Option.bind_eq_some_iff.1 h
    obtain ⟨b, -, rfl⟩ := Option.map_eq_some_iff.1 hp
    obtain ⟨l'', hl, h⟩ := Option.bind_eq_some_iff.1 h
    cases h
    exact congrArg (List.cons p.1) (ih hl)

variable [DecidableEq ν]

/-- The value of a row in a column. -/
def cell (row : Row ν υ) (name : ν) : Option υ :=
  (row.lookup name).join

/-- The row in these columns: a column that it does not have gets its default. -/
def refit (columns : List (Column ν τ υ)) (row : Row ν υ) : Row ν υ :=
  columns.map fun c => (c.name, (row.lookup c.name).getD c.serverDefault)

/-- The row has the columns of the definition, and a value where one is required. -/
structure Fits (D : Definition ν τ υ) (row : Row ν υ) : Prop where
  names : row.map Prod.fst = D.names
  values : ∀ c ∈ D.columns, c.nullable = false → cell row c.name ≠ none

instance (D : Definition ν τ υ) (row : Row ν υ) [DecidableEq υ] : Decidable (Fits D row) :=
  decidable_of_iff
    (row.map Prod.fst = D.names ∧ ∀ c ∈ D.columns, c.nullable = false → cell row c.name ≠ none)
    ⟨fun h => ⟨h.1, h.2⟩, fun h => ⟨h.names, h.values⟩⟩

variable {D D' : Definition ν τ υ} {row : Row ν υ} {rows : List (Row ν υ)} {name other : ν}
  {columns columns₁ : List (Column ν τ υ)} {α : Type}

/-! ## Looking up -/

lemma lookup_ne_none {l : List (ν × α)} : l.lookup name ≠ none ↔ name ∈ l.map Prod.fst := by
  rw [Ne, List.lookup_eq_none_iff]
  constructor
  · intro h
    by_contra hn
    apply h
    intro p hp
    have hne : name ≠ p.1 := by
      rintro rfl
      exact hn (List.mem_map_of_mem hp)
    simpa using hne
  · intro h hall
    obtain ⟨p, hp, rfl⟩ := List.mem_map.1 h
    simpa using hall p hp

lemma lookup_of_mem {l : List (ν × α)} {p : ν × α} (h : (l.map Prod.fst).Nodup) (hp : p ∈ l) :
    l.lookup p.1 = some p.2 := by
  induction l with
  | nil => cases hp
  | cons q l ih =>
    rw [List.map_cons, List.nodup_cons] at h
    rw [List.lookup_cons]
    cases hp with
    | head => rw [beq_self_eq_true]
    | tail _ hp =>
      have hne : p.1 ≠ q.1 := by
        intro he
        exact h.1 (he ▸ List.mem_map_of_mem hp)
      rw [beq_false_of_ne hne]
      exact ih h.2 hp

lemma mem_of_lookup {l : List (ν × α)} {a : α} (h : l.lookup name = some a) : (name, a) ∈ l := by
  obtain ⟨before, rest, rfl, -⟩ := List.lookup_eq_some_iff.1 h
  exact List.mem_append_right _ List.mem_cons_self

lemma lookup_filter_ne {l : List (ν × α)} (h : other ≠ name) :
    (l.filter fun p => p.1 ≠ name).lookup other = l.lookup other := by
  induction l with
  | nil => rfl
  | cons p l ih =>
    rw [List.filter_cons, List.lookup_cons]
    split
    · rw [List.lookup_cons, ih]
    · next hp =>
      have he : p.1 = name := by simpa using hp
      rw [he, beq_false_of_ne h, ih]

/-! ## Rows in other columns -/

lemma refit_names (columns : List (Column ν τ υ)) (row : Row ν υ) :
    (refit columns row).map Prod.fst = columns.map Column.name := by
  unfold refit
  rw [List.map_map]
  rfl

lemma lookup_refit (h : (columns.map Column.name).Nodup) {c : Column ν τ υ} (hc : c ∈ columns)
    (row : Row ν υ) :
    (refit columns row).lookup c.name = some ((row.lookup c.name).getD c.serverDefault) := by
  have hmem : (c.name, (row.lookup c.name).getD c.serverDefault) ∈ refit columns row :=
    List.mem_map.2 ⟨c, hc, rfl⟩
  exact lookup_of_mem (by rw [refit_names]; exact h) hmem

/-- A column that a row has keeps its value. -/
lemma cell_refit (h : (columns.map Column.name).Nodup) (hc : name ∈ columns.map Column.name)
    (hr : name ∈ row.map Prod.fst) : cell (refit columns row) name = cell row name := by
  obtain ⟨c, hmem, rfl⟩ := List.mem_map.1 hc
  obtain ⟨value, hvalue⟩ := Option.ne_none_iff_exists'.1 (lookup_ne_none.2 hr)
  unfold cell
  rw [lookup_refit h hmem, hvalue]
  rfl

/-- A column that a row does not have gets its default. -/
lemma cell_refit_default (h : (columns.map Column.name).Nodup) {c : Column ν τ υ}
    (hc : c ∈ columns) (hr : c.name ∉ row.map Prod.fst) :
    cell (refit columns row) c.name = c.serverDefault := by
  have hnone : row.lookup c.name = none := by
    by_contra hne
    exact hr (lookup_ne_none.1 hne)
  unfold cell
  rw [lookup_refit h hc, hnone]
  rfl

/-- A row that fits is left as it is. -/
lemma refit_self (hD : D.names.Nodup) (h : Fits D row) : refit D.columns row = row := by
  have hnames := h.names
  have hnodup : (row.map Prod.fst).Nodup := hnames ▸ hD
  have hcolumn : ∀ c ∈ D.columns, (c.name, (row.lookup c.name).getD c.serverDefault) =
      (c.name, (row.lookup c.name).getD none) := by
    intro c hc
    have hr : c.name ∈ row.map Prod.fst := hnames ▸ List.mem_map_of_mem hc
    obtain ⟨value, hvalue⟩ := Option.ne_none_iff_exists'.1 (lookup_ne_none.2 hr)
    rw [hvalue]
    rfl
  have hentry : ∀ p ∈ row, (p.1, (row.lookup p.1).getD none) = p := by
    intro p hp
    rw [lookup_of_mem hnodup hp]
    rfl
  calc refit D.columns row
      = D.columns.map fun c => (c.name, (row.lookup c.name).getD none) :=
        List.map_congr_left hcolumn
    _ = D.names.map fun name => (name, (row.lookup name).getD none) := by
        rw [Definition.names, List.map_map]
        rfl
    _ = row.map fun p => (p.1, (row.lookup p.1).getD none) := by
        rw [← hnames, List.map_map]
        rfl
    _ = row := (List.map_congr_left hentry).trans (List.map_id' row)

/-- Columns that are added and dropped again leave no trace. -/
lemma refit_refit (h : (columns₁.map Column.name).Nodup)
    (hsub : ∀ c ∈ columns, c.name ∈ columns₁.map Column.name)
    (hrow : ∀ c ∈ columns, c.name ∈ row.map Prod.fst) :
    refit columns (refit columns₁ row) = refit columns row := by
  apply List.map_congr_left
  intro c hc
  obtain ⟨c', hc', hname⟩ := List.mem_map.1 (hsub c hc)
  obtain ⟨value, hvalue⟩ := Option.ne_none_iff_exists'.1 (lookup_ne_none.2 (hrow c hc))
  have hlookup := lookup_refit h hc' row
  rw [hname, hvalue] at hlookup
  rw [hlookup, hvalue]
  rfl

/-! ## Changes of a definition -/

/-- One change of a batch. -/
inductive Change (ν τ υ : Type)
  | addColumn (column : Column ν τ υ)
  | dropColumn (name : ν)
  | alterType (name : ν) (type : τ)
  | createIndex (index : Index ν)
  | dropIndex (name : ν)

namespace Change

/-- The definition after the change. A column that a key or an index uses is not dropped. -/
def define (D : Definition ν τ υ) : Change ν τ υ → Option (Definition ν τ υ)
  | addColumn c =>
    if c.name ∈ D.names ∨ (c.nullable = false ∧ c.serverDefault = none) then none
    else some { D with columns := D.columns ++ [c] }
  | dropColumn name =>
    if name ∈ D.names ∧ name ≠ D.primaryKey ∧ (∀ r ∈ D.references, r.column ≠ name) ∧
        ∀ i ∈ D.indexes, name ∉ i.columns then
      some { D with columns := D.columns.filter fun c => c.name ≠ name }
    else none
  | alterType name type =>
    if name ∈ D.names then
      some { D with
        columns := D.columns.map fun c => if c.name = name then { c with type := type } else c }
    else none
  | createIndex i =>
    if i.name ∈ D.indexes.map Index.name ∨ ∃ name ∈ i.columns, name ∉ D.names then none
    else some { D with indexes := D.indexes ++ [i] }
  | dropIndex name =>
    if name ∈ D.indexes.map Index.name then
      some { D with indexes := D.indexes.filter fun i => i.name ≠ name }
    else none

/-- A row after the change. -/
def onRow (row : Row ν υ) : Change ν τ υ → Row ν υ
  | addColumn c => row ++ [(c.name, c.serverDefault)]
  | dropColumn name => row.filter fun entry => entry.1 ≠ name
  | _ => row

/-- The columns that it adds. -/
def added : Change ν τ υ → List ν
  | addColumn c => [c.name]
  | _ => []

/-- What a change can make of a definition. -/
inductive Defined (D : Definition ν τ υ) : Change ν τ υ → Definition ν τ υ → Prop
  | add (c : Column ν τ υ) : c.name ∉ D.names → (c.nullable = false → c.serverDefault ≠ none) →
      Defined D (addColumn c) { D with columns := D.columns ++ [c] }
  | drop (name : ν) : name ≠ D.primaryKey → (∀ r ∈ D.references, r.column ≠ name) →
      Defined D (dropColumn name) { D with columns := D.columns.filter fun c => c.name ≠ name }
  | type (name : ν) (type : τ) :
      Defined D (alterType name type) { D with
        columns := D.columns.map fun c => if c.name = name then { c with type := type } else c }
  | index (i : Index ν) : Defined D (createIndex i) { D with indexes := D.indexes ++ [i] }
  | unindex (name : ν) :
      Defined D (dropIndex name) { D with indexes := D.indexes.filter fun i => i.name ≠ name }

variable {c : Change ν τ υ} {cs : List (Change ν τ υ)}

lemma define_cases (h : c.define D = some D') : Defined D c D' := by
  cases c with
  | addColumn c =>
    simp only [define] at h
    split at h
    · cases h
    · next hn =>
      cases h
      rw [not_or, not_and] at hn
      exact .add c hn.1 hn.2
  | dropColumn name =>
    simp only [define] at h
    split at h
    · next hn =>
      cases h
      exact .drop name hn.2.1 hn.2.2.1
    · cases h
  | alterType name type =>
    simp only [define] at h
    split at h
    · cases h
      exact .type name type
    · cases h
  | createIndex i =>
    simp only [define] at h
    split at h
    · cases h
    · cases h
      exact .index i
  | dropIndex name =>
    simp only [define] at h
    split at h
    · cases h
      exact .unindex name
    · cases h

/-- Another type leaves the names. -/
lemma names_alterType (columns : List (Column ν τ υ)) (name : ν) (type : τ) :
    (columns.map fun c => if c.name = name then { c with type := type } else c).map Column.name =
      columns.map Column.name := by
  rw [List.map_map]
  apply List.map_congr_left
  intro c _
  simp only [Function.comp_apply]
  split <;> rfl

/-- A column of the new definition is one of the old, but for its type, or is added. -/
lemma define_columns (h : c.define D = some D') {column : Column ν τ υ}
    (hc : column ∈ D'.columns) :
    (∃ old ∈ D.columns, old.name = column.name ∧ old.serverDefault = column.serverDefault) ∨
      column.name ∈ c.added := by
  cases define_cases h with
  | add c =>
    cases List.mem_append.1 hc with
    | inl hc => exact .inl ⟨column, hc, rfl, rfl⟩
    | inr hc =>
      rw [List.mem_singleton.1 hc]
      exact .inr List.mem_cons_self
  | drop name => exact .inl ⟨column, List.mem_of_mem_filter hc, rfl, rfl⟩
  | type name type =>
    obtain ⟨old, hold, rfl⟩ := List.mem_map.1 hc
    refine .inl ⟨old, hold, ?_⟩
    split
    · exact ⟨rfl, rfl⟩
    · exact ⟨rfl, rfl⟩
  | index i => exact .inl ⟨column, hc, rfl, rfl⟩
  | unindex name => exact .inl ⟨column, hc, rfl, rfl⟩

/-- The names of the new definition: some of the old ones, then the added one. -/
lemma define_names (h : c.define D = some D') : D'.names.Sublist (D.names ++ c.added) := by
  cases define_cases h with
  | add c =>
    show ((D.columns ++ [c]).map Column.name).Sublist _
    rw [List.map_append]
    exact List.Sublist.refl _
  | drop name =>
    simp only [added, List.append_nil]
    exact List.filter_sublist.map Column.name
  | type name type =>
    simp only [added, List.append_nil, Definition.names, names_alterType]
    exact List.Sublist.refl _
  | index i =>
    simp only [added, List.append_nil]
    exact List.Sublist.refl _
  | unindex name =>
    simp only [added, List.append_nil]
    exact List.Sublist.refl _

/-- A column other than a dropped one stays. -/
lemma mem_define_names (h : c.define D = some D') (hn : name ∈ D.names)
    (hd : c ≠ dropColumn name) : name ∈ D'.names := by
  cases define_cases h with
  | add c =>
    show name ∈ (D.columns ++ [c]).map Column.name
    rw [List.map_append]
    exact List.mem_append_left _ hn
  | drop other =>
    obtain ⟨column, hmem, rfl⟩ := List.mem_map.1 hn
    have hne : column.name ≠ other := fun he => hd (he ▸ rfl)
    exact List.mem_map_of_mem (List.mem_filter.2 ⟨hmem, decide_eq_true hne⟩)
  | type other type =>
    rw [Definition.names, names_alterType]
    exact hn
  | index i => exact hn
  | unindex other => exact hn

lemma define_keys (h : c.define D = some D') :
    D'.primaryKey = D.primaryKey ∧ D'.references = D.references := by
  cases define_cases h with
  | add c => exact ⟨rfl, rfl⟩
  | drop name => exact ⟨rfl, rfl⟩
  | type name type => exact ⟨rfl, rfl⟩
  | index i => exact ⟨rfl, rfl⟩
  | unindex name => exact ⟨rfl, rfl⟩

lemma define_nodup (h : c.define D = some D') (hD : D.names.Nodup) : D'.names.Nodup := by
  refine (define_names h).nodup (List.nodup_append.2 ⟨hD, ?_, ?_⟩)
  · cases c with
    | addColumn c => exact List.nodup_singleton _
    | _ => exact List.nodup_nil
  · cases define_cases h with
    | add c hn =>
      rintro name hmem other hother rfl
      rw [List.mem_singleton.1 hother] at hmem
      exact hn hmem
    | _ => exact fun _ _ _ hother => absurd hother List.not_mem_nil

lemma define_sound (h : c.define D = some D') (hD : D.Sound) : D'.Sound := by
  have hdrop : ∀ name, c = dropColumn name →
      name ≠ D.primaryKey ∧ ∀ r ∈ D.references, r.column ≠ name := by
    rintro name rfl
    cases define_cases h with
    | drop _ hkey hrefs => exact ⟨hkey, hrefs⟩
  obtain ⟨hkey, hrefs⟩ := define_keys h
  refine ⟨define_nodup h hD.nodup, ?_, fun r hr => ?_⟩
  · rw [hkey]
    exact mem_define_names h hD.key fun hc => (hdrop _ hc).1 rfl
  · rw [hrefs] at hr
    exact mem_define_names h (hD.references r hr) fun hc => (hdrop _ hc).2 r hr rfl

/-- What a row holds in a column of the new definition. -/
lemma lookup_onRow (h : c.define D = some D') (hr : Fits D row) {column : Column ν τ υ}
    (hc : column ∈ D'.columns) :
    ((c.onRow row).lookup column.name).getD column.serverDefault =
      (row.lookup column.name).getD column.serverDefault := by
  cases define_cases h with
  | add c hn =>
    rw [onRow, List.lookup_append]
    cases hv : row.lookup column.name with
    | some value => rfl
    | none =>
      cases List.mem_append.1 hc with
      | inl hc =>
        have hsome : row.lookup column.name ≠ none := by
          rw [lookup_ne_none, hr.names]
          exact List.mem_map_of_mem hc
        exact absurd hv hsome
      | inr hc =>
        rw [List.mem_singleton.1 hc, Option.none_or, List.lookup_cons_self]
        rfl
  | drop name =>
    have hne := of_decide_eq_true (List.mem_filter.1 hc).2
    rw [onRow, lookup_filter_ne hne]
  | type name type => rfl
  | index i => rfl
  | unindex name => rfl

/-- A row that has had the old columns has the new ones. -/
lemma fits_onRow (h : c.define D = some D') (hr : Fits D row) : Fits D' (c.onRow row) := by
  cases define_cases h with
  | add c hn hdefault =>
    have hnone : row.lookup c.name = none := by
      by_contra hne
      exact hn (hr.names ▸ lookup_ne_none.1 hne)
    constructor
    · show (row ++ [(c.name, c.serverDefault)]).map Prod.fst = (D.columns ++ [c]).map Column.name
      rw [List.map_append, List.map_append, hr.names]
      rfl
    · intro column hc hnull
      unfold cell onRow
      rw [List.lookup_append]
      cases List.mem_append.1 hc with
      | inl hc =>
        have hcell := hr.values column hc hnull
        have hsome : row.lookup column.name ≠ none := by
          rw [lookup_ne_none, hr.names]
          exact List.mem_map_of_mem hc
        obtain ⟨value, hvalue⟩ := Option.ne_none_iff_exists'.1 hsome
        rw [cell, hvalue] at hcell
        rw [hvalue]
        exact hcell
      | inr hc =>
        rw [List.mem_singleton.1 hc] at hnull ⊢
        rw [hnone, Option.none_or, List.lookup_cons_self]
        exact hdefault hnull
  | drop name =>
    constructor
    · show (row.filter fun entry => entry.1 ≠ name).map Prod.fst =
        (D.columns.filter fun c => c.name ≠ name).map Column.name
      have hrow : (row.filter fun entry => entry.1 ≠ name).map Prod.fst =
          (row.map Prod.fst).filter fun other => other ≠ name := by
        rw [List.filter_map]
        rfl
      have hcolumns : (D.columns.filter fun c => c.name ≠ name).map Column.name =
          (D.columns.map Column.name).filter fun other => other ≠ name := by
        rw [List.filter_map]
        rfl
      rw [hrow, hcolumns, hr.names]
      rfl
    · intro column hc hnull
      obtain ⟨hmem, hne⟩ := List.mem_filter.1 hc
      unfold cell onRow
      rw [lookup_filter_ne (of_decide_eq_true hne)]
      exact hr.values column hmem hnull
  | type name type =>
    constructor
    · rw [Definition.names, names_alterType]
      exact hr.names
    · intro column hc hnull
      obtain ⟨old, hold, rfl⟩ := List.mem_map.1 hc
      split at hnull
      · next hn =>
        rw [if_pos hn]
        exact hr.values old hold hnull
      · next hn =>
        rw [if_neg hn]
        exact hr.values old hold hnull
  | index i => exact ⟨hr.names, hr.values⟩
  | unindex name => exact ⟨hr.names, hr.values⟩

lemma foldlM_define_keys (h : cs.foldlM define D = some D') (hD : D.Sound) :
    D'.Sound ∧ D'.primaryKey = D.primaryKey ∧ D'.references = D.references := by
  induction cs generalizing D with
  | nil =>
    cases h
    exact ⟨hD, rfl, rfl⟩
  | cons c cs ih =>
    rw [List.foldlM_cons] at h
    obtain ⟨D₁, hc, h⟩ := Option.bind_eq_some_iff.1 h
    obtain ⟨hkey, hrefs⟩ := define_keys hc
    obtain ⟨hsound, hkey', hrefs'⟩ := ih h (define_sound hc hD)
    exact ⟨hsound, hkey'.trans hkey, hrefs'.trans hrefs⟩

/-- The columns after some changes: the old ones, but for their types, and the added ones. -/
lemma foldlM_define_columns (h : cs.foldlM define D = some D') {column : Column ν τ υ}
    (hc : column ∈ D'.columns) :
    (∃ old ∈ D.columns, old.name = column.name ∧ old.serverDefault = column.serverDefault) ∨
      column.name ∈ cs.flatMap added := by
  induction cs generalizing D with
  | nil =>
    cases h
    exact .inl ⟨column, hc, rfl, rfl⟩
  | cons c cs ih =>
    rw [List.foldlM_cons] at h
    obtain ⟨D₁, hc₁, h⟩ := Option.bind_eq_some_iff.1 h
    rw [List.flatMap_cons]
    rcases ih h with ⟨old, hold, hname, hdefault⟩ | hadded
    · rw [← hname, ← hdefault]
      exact (define_columns hc₁ hold).imp id (List.mem_append_left _)
    · exact .inr (List.mem_append_right _ hadded)

/-- What later changes make of a changed row, they make of the row itself. -/
lemma refit_onRow {D₁ : Definition ν τ υ} (hc : c.define D = some D₁)
    (h : cs.foldlM define D₁ = some D') (hfresh : (D.names ++ c.added ++ cs.flatMap added).Nodup)
    (hr : Fits D row) : refit D'.columns (c.onRow row) = refit D'.columns row := by
  apply List.map_congr_left
  intro column hcolumn
  rw [Prod.mk.injEq]
  refine ⟨rfl, ?_⟩
  rcases foldlM_define_columns h hcolumn with ⟨old, hold, hname, hdefault⟩ | hadded
  · rw [← hname, ← hdefault]
    exact lookup_onRow hc hr hold
  · -- a column that is added later is in neither row
    have hnot := (List.nodup_append.1 hfresh).2.2
    have hold : row.lookup column.name = none := by
      by_contra hne
      rw [← Ne, lookup_ne_none, hr.names] at hne
      exact hnot _ (List.mem_append_left _ hne) _ hadded rfl
    have hnew : (c.onRow row).lookup column.name = none := by
      by_contra hne
      rw [← Ne, lookup_ne_none, (fits_onRow hc hr).names] at hne
      exact hnot _ ((define_names hc).subset hne) _ hadded rfl
    rw [hold, hnew]

end Change

/-! ## Changes of a table -/

/-- A definition with rows. -/
structure Table (ν τ υ : Type) extends Definition ν τ υ where
  rows : List (Row ν υ)
deriving DecidableEq

variable [DecidableEq υ]

namespace Change

/-- The rows allow the change: in the columns of a unique index no two have the same values. -/
def admits (rows : List (Row ν υ)) : Change ν τ υ → Bool
  | createIndex i =>
    !i.unique || ((rows.map fun row => i.columns.map (cell row)).filter (none ∉ ·)).Nodup
  | _ => true

def apply (t : Table ν τ υ) (c : Change ν τ υ) : Option (Table ν τ υ) :=
  (c.define t.toDefinition).bind fun D =>
    if c.admits t.rows then some ⟨D, t.rows.map c.onRow⟩ else none

/-- It creates an index. -/
def indexes : Change ν τ υ → Bool
  | createIndex _ => true
  | _ => false

/-- There is no ALTER TABLE for the change. -/
def needsCopy : Change ν τ υ → Bool
  | dropColumn _ => true
  | alterType _ _ => true
  | _ => false

variable {c : Change ν τ υ} {cs : List (Change ν τ υ)}

/-- A table without rows admits all changes. -/
lemma apply_nil (D : Definition ν τ υ) (c : Change ν τ υ) :
    c.apply ⟨D, []⟩ = (c.define D).map fun D' => ⟨D', []⟩ := by
  have hadmits : c.admits ([] : List (Row ν υ)) = true := by
    cases c with
    | createIndex i => exact Bool.or_true _
    | _ => rfl
  unfold apply
  rw [hadmits]
  cases c.define D with
  | none => rfl
  | some D' => rfl

lemma foldlM_apply_nil (D : Definition ν τ υ) (cs : List (Change ν τ υ)) :
    cs.foldlM apply ⟨D, []⟩ = (cs.foldlM define D).map fun D' => ⟨D', []⟩ := by
  induction cs generalizing D with
  | nil => rfl
  | cons c cs ih =>
    rw [List.foldlM_cons, List.foldlM_cons, apply_nil]
    cases c.define D with
    | none => rfl
    | some D' => exact ih D'

/-- Rows go through changes that add no column twice, and none that was there. -/
lemma foldlM_apply (h : cs.foldlM define D = some D')
    (hfresh : (D.names ++ cs.flatMap added).Nodup) (hindex : ∀ c ∈ cs, c.indexes = false)
    (hrows : ∀ row ∈ rows, Fits D row) :
    cs.foldlM apply ⟨D, rows⟩ = some ⟨D', rows.map (refit D'.columns)⟩ ∧
      ∀ row ∈ rows, Fits D' (refit D'.columns row) := by
  induction cs generalizing D rows with
  | nil =>
    cases h
    rw [List.flatMap_nil, List.append_nil] at hfresh
    have hself : ∀ row ∈ rows, refit D'.columns row = row :=
      fun row hrow => refit_self hfresh (hrows row hrow)
    refine ⟨?_, fun row hrow => ?_⟩
    · rw [(List.map_congr_left hself).trans (List.map_id' rows)]
      rfl
    · rw [hself row hrow]
      exact hrows row hrow
  | cons c cs ih =>
    rw [List.foldlM_cons] at h
    obtain ⟨D₁, hc, h⟩ := Option.bind_eq_some_iff.1 h
    rw [List.flatMap_cons, ← List.append_assoc] at hfresh
    have hfresh₁ : (D₁.names ++ cs.flatMap added).Nodup :=
      ((define_names hc).append (List.Sublist.refl _)).nodup hfresh
    have hadmits : c.admits rows = true := by
      cases c with
      | createIndex i => exact absurd (hindex _ List.mem_cons_self) nofun
      | _ => rfl
    have happly : c.apply ⟨D, rows⟩ = some ⟨D₁, rows.map c.onRow⟩ := by
      unfold apply
      rw [hc, Option.bind_some, hadmits]
      rfl
    have hfits : ∀ row ∈ rows.map c.onRow, Fits D₁ row := by
      intro row hrow
      obtain ⟨old, hold, rfl⟩ := List.mem_map.1 hrow
      exact fits_onRow hc (hrows old hold)
    obtain ⟨hrest, hrestfits⟩ :=
      ih h hfresh₁ (fun c hc => hindex c (List.mem_cons_of_mem _ hc)) hfits
    have hrefit : ∀ row ∈ rows, refit D'.columns (c.onRow row) = refit D'.columns row :=
      fun row hrow => refit_onRow hc h hfresh (hrows row hrow)
    have hmap : (rows.map c.onRow).map (refit D'.columns) = rows.map (refit D'.columns) := by
      rw [List.map_map]
      exact List.map_congr_left hrefit
    refine ⟨?_, fun row hrow => ?_⟩
    · rw [List.foldlM_cons, happly, ← hmap]
      exact hrest
    · rw [← hrefit row hrow]
      exact hrestfits _ (List.mem_map_of_mem hrow)

end Change

end Ddl
