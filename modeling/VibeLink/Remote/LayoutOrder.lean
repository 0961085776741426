import VibeLink.Relational.Arranged
import VibeLink.Relational.Maps
import VibeLink.Relational.Runs
import VibeLink.Coordinator.Store
import VibeLink.Daemon.Protocol

/-! The places of the terminal panes in the saved layout of a workspace (`remote/layout_order.rs`). -/

namespace VibeLink.Coordinator.Json

def asObject : Json → Option (List (String × Json))
  | .obj fields => some fields
  | _ => none

def asArray : Json → Option (List Json)
  | .arr items => some items
  | _ => none

/-- `Value::as_u64`, of a literal as JSON has them. -/
def asU64 : Json → Option Nat
  | .num literal => literal.toNat?.filter (· < UInt64.size)
  | _ => none

/-- No object in the value has two fields of one name, as `serde_json` reads them. -/
inductive Keyed : Json → Prop
  | null : Keyed .null
  | bool : Keyed (.bool b)
  | num : Keyed (.num literal)
  | str : Keyed (.str s)
  | arr : (∀ item ∈ items, Keyed item) → Keyed (.arr items)
  | obj : (fields.map Prod.fst).Nodup → (∀ field ∈ fields, Keyed field.2) → Keyed (.obj fields)

theorem mem_of_lookup (h : lookup name fields = some v) : (name, v) ∈ fields := by
  induction fields with
  | nil => cases h
  | cons field fields ih =>
    obtain ⟨field, first⟩ := field
    simp only [lookup] at h
    split at h
    · rename_i same
      cases h
      cases same
      exact List.mem_cons_self
    · exact List.mem_cons_of_mem _ (ih h)

theorem Keyed.get {value : Json} (keyed : value.Keyed) (h : value.get name = some v) : v.Keyed := by
  cases keyed with
  | obj _ fields => exact fields (name, v) (mem_of_lookup h)
  | _ => cases h

theorem sizeOf_get (value : Json) (h : value.get name = some v) : sizeOf v < sizeOf value := by
  cases value with
  | obj fields =>
    have smaller := List.sizeOf_lt_of_mem (mem_of_lookup h)
    simp only [Prod.mk.sizeOf_spec] at smaller
    simp only [obj.sizeOf_spec]
    omega
  | _ => cases h

theorem sizeOf_item {value : Json} (h : value.get name = some (.arr items)) (member : item ∈ items) :
    sizeOf item < sizeOf value := by
  have smaller := List.sizeOf_lt_of_mem member
  have found := sizeOf_get value h
  simp only [arr.sizeOf_spec] at found
  omega

theorem asStr_eq_some {value : Json} : value.asStr = some s ↔ value = .str s := by
  cases value <;> simp [asStr]

theorem asArray_eq_some {value : Json} : value.asArray = some items ↔ value = .arr items := by
  cases value <;> simp [asArray]

theorem asObject_eq_some {value : Json} : value.asObject = some fields ↔ value = .obj fields := by
  cases value <;> simp [asObject]

end VibeLink.Coordinator.Json

namespace VibeLink.Remote

open Relational Coordinator Daemon

/-- `serde_json::from_str` and `Uuid::parse_str`. -/
structure Parsers where
  json : String → Option Json
  uuid : String → Option Daemon.Uuid
  keyed : ∀ raw value, json raw = some value → value.Keyed

structure PaneLayoutPosition where
  groupId : String
  groupOrder : UInt32
  tabOrder : UInt32
  order : UInt32
  deriving DecidableEq

abbrev Positions := AList fun _ : Daemon.Uuid => PaneLayoutPosition

structure DockGroup where
  id : String
  views : List String

/-- `u32::try_from` -/
def u32TryFrom (n : Nat) : Option UInt32 := if n < UInt32.size then some (.ofNat n) else none

/-- `u32::checked_add(1)` -/
def checkedSucc (n : UInt32) : Option UInt32 := u32TryFrom (n.toNat + 1)

def nonEmptyString (value : Json) : Option String := do
  let value ← value.asStr
  if trim value = "" then none else some value

/-- Pushes the groups under a node, which it leaves where they are when it fails. -/
def traverseGroups (node : Json) (output : List DockGroup) : Option (List DockGroup) := do
  let type ← (← node.get "type").asStr
  if type = "branch" then
    match _ : node.get "data" with
    | some (.arr children) =>
      if children.isEmpty then none
      else children.attach.foldlM (fun output child => traverseGroups child.1 output) output
    | _ => none
  else if type = "leaf" then do
    let data ← (← node.get "data").asObject
    let id ← nonEmptyString (← Json.lookup "id" data)
    let views ← (← Json.lookup "views" data).asArray
    if views.isEmpty then none
    else pure (output ++ [⟨id, ← Json.strings views⟩])
  else none
termination_by sizeOf node
decreasing_by exact Json.sizeOf_item ‹node.get "data" = _› child.2

section Panels

variable (parsers : Parsers)

def exactKeys : List String := ["schema", "kind", "instanceId", "title", "icon", "paneId"]

def exactTerminalPaneId (panelId : String) (panel : List (String × Json)) : Option Daemon.Uuid := do
  guard ((Json.lookup "contentComponent" panel).bind Json.asStr = some "terminal" ∧
    (Json.lookup "tabComponent" panel).bind Json.asStr = some "workspaceContentTab" ∧
    (Json.lookup "renderer" panel).bind Json.asStr = some "always")
  let params ← (← Json.lookup "params" panel).asObject
  guard (params.length = exactKeys.length ∧ ∀ field ∈ params, field.1 ∈ exactKeys)
  guard ((Json.lookup "schema" params).bind Json.asU64 = some 1 ∧
    (Json.lookup "kind" params).bind Json.asStr = some "terminal")
  let instanceId ← nonEmptyString (← Json.lookup "instanceId" params)
  let paneIdRaw ← nonEmptyString (← Json.lookup "paneId" params)
  let _ ← nonEmptyString (← Json.lookup "title" params)
  let _ ← nonEmptyString (← Json.lookup "icon" params)
  guard (instanceId = paneIdRaw ∧ panelId = s!"content:terminal:{instanceId}")
  parsers.uuid paneIdRaw

def panelPane (panelId : String) (panel : Json) : Option (Option Daemon.Uuid) := do
  let panel ← panel.asObject
  let contentComponent := (Json.lookup "contentComponent" panel).bind Json.asStr
  let paramsKind := do ((← (← Json.lookup "params" panel).asObject) |> Json.lookup "kind").bind Json.asStr
  if contentComponent ≠ some "terminal" ∧ paramsKind ≠ some "terminal" then pure none
  else pure (some (← exactTerminalPaneId parsers panelId panel))

abbrev TerminalPanels := AList fun _ : String => Daemon.Uuid

/-- One turn of the loop that gathers `terminal_panels` and `terminal_panes`. -/
def addPanel (found : TerminalPanels × List Daemon.Uuid) (panel : String × Json) :
    Option (TerminalPanels × List Daemon.Uuid) := do
  match ← panelPane parsers panel.1 panel.2 with
  | none => pure found
  | some paneId =>
    guard (paneId ∉ found.2)
    pure (found.1.insert panel.1 paneId, found.2 ++ [paneId])

end Panels

/-- The variables of the loop that places the panes. -/
structure Placing where
  seenGroups : List String
  seenViews : List String
  positions : Positions
  globalOrder : UInt32

section Loops

variable (panels : List (String × Json)) (terminalPanels : TerminalPanels)

def placeView (groupId : String) (groupOrder : UInt32) (p : Placing) (tab : String × Nat) : Option Placing := do
  let (viewId, tabIndex) := tab
  guard (viewId ∉ p.seenViews ∧ viewId ∈ panels.map Prod.fst)
  let p := { p with seenViews := p.seenViews ++ [viewId] }
  match terminalPanels.lookup viewId with
  | none => pure p
  | some paneId =>
    let tabOrder ← u32TryFrom tabIndex
    guard (paneId ∉ p.positions)
    let positions := p.positions.insert paneId ⟨groupId, groupOrder, tabOrder, p.globalOrder⟩
    pure { p with positions, globalOrder := ← checkedSucc p.globalOrder }

def placeGroup (p : Placing) (group : DockGroup × Nat) : Option Placing := do
  let (group, groupIndex) := group
  guard (group.id ∉ p.seenGroups)
  let p := { p with seenGroups := p.seenGroups ++ [group.id] }
  let groupOrder ← u32TryFrom groupIndex
  group.views.zipIdx.foldlM (placeView panels terminalPanels group.id groupOrder) p

end Loops

section Positions

variable (parsers : Parsers) (layoutJson : Option String) (panes : List PaneMeta)

def fallbackPosition (index : Nat) : PaneLayoutPosition :=
  let order := (u32TryFrom index).getD (.ofNat (UInt32.size - 1))
  ⟨"", order, 0, order⟩

def fallbackPositions : Positions := enumerated PaneMeta.id (fun _ index => fallbackPosition index) panes

def parseV3Positions (raw : String) : Option Positions := do
  let envelope ← parsers.json raw
  guard ((envelope.get "version").bind Json.asU64 = some 3)
  let dockview ← (← envelope.get "dockview").asObject
  let panels ← (← Json.lookup "panels" dockview).asObject
  let root ← (← Json.lookup "grid" dockview).get "root"
  let (terminalPanels, _) ← panels.foldlM (addPanel parsers) (∅, [])
  let groups ← traverseGroups root []
  let placing ← groups.zipIdx.foldlM (placeGroup panels terminalPanels) ⟨[], [], ∅, 0⟩
  let live := (panes.map PaneMeta.id).toFinset
  guard (live.card = panes.length ∧ placing.positions.keys.toFinset = live)
  guard (terminalPanels.keys.length = live.card)
  pure placing.positions

def paneLayoutPositions : Positions :=
  match layoutJson with
  | none => fallbackPositions panes
  | some raw => (parseV3Positions parsers panes raw).getD (fallbackPositions panes)

end Positions

theorem u32TryFrom_eq_some {n : Nat} {v : UInt32} : u32TryFrom n = some v ↔ n < UInt32.size ∧ v = .ofNat n := by
  rw [u32TryFrom]
  split
  · rename_i small
    constructor
    · intro h
      cases h
      exact ⟨small, rfl⟩
    · rintro ⟨_, rfl⟩
      rfl
  · rename_i large
    simp [large]

/-! The groups of a tree in depth-first order. -/

mutual

inductive Reads : Json → List DockGroup → Prop
  | leaf {id : String} : node.get "type" = some (.str "leaf") → node.get "data" = some (.obj data) →
      Json.lookup "id" data = some value → nonEmptyString value = some id →
      Json.lookup "views" data = some (.arr views) → views ≠ [] → Json.strings views = some names →
      Reads node [⟨id, names⟩]
  | branch : node.get "type" = some (.str "branch") → node.get "data" = some (.arr children) → children ≠ [] →
      ReadsAll children groups → Reads node groups

inductive ReadsAll : List Json → List DockGroup → Prop
  | nil : ReadsAll [] []
  | cons : Reads child groups → ReadsAll children rest → ReadsAll (child :: children) (groups ++ rest)

end

theorem foldlM_traverseGroups {children : List Json} {output output' : List DockGroup}
    (each : ∀ child ∈ children, ∀ output output', traverseGroups child output = some output' ↔
      ∃ groups, Reads child groups ∧ output' = output ++ groups) :
    children.attach.foldlM (fun output child => traverseGroups child.1 output) output = some output' ↔
      ∃ groups, ReadsAll children groups ∧ output' = output ++ groups := by
  rw [List.foldlM_subtype (g := fun output child => traverseGroups child output) fun _ _ _ => rfl,
    List.unattach_attach]
  induction children generalizing output with
  | nil =>
    constructor
    · intro h
      cases h
      exact ⟨[], .nil, (List.append_nil _).symm⟩
    · rintro ⟨_, ⟨⟩, rfl⟩
      rw [List.append_nil]
      rfl
  | cons child children ih =>
    rw [List.foldlM_cons, Option.bind_eq_bind, Option.bind_eq_some_iff]
    have rest (middle : List DockGroup) := @ih middle fun child member => each child (List.mem_cons_of_mem _ member)
    constructor
    · intro h
      obtain ⟨middle, first, h⟩ := h
      obtain ⟨groups, reads, rfl⟩ := (each child List.mem_cons_self _ _).1 first
      obtain ⟨groups', reads', rfl⟩ := (rest _).1 h
      exact ⟨groups ++ groups', .cons reads reads', List.append_assoc ..⟩
    · intro h
      obtain ⟨_, reads, rfl⟩ := h
      cases reads with
      | cons reads reads' =>
        refine ⟨_, (each child List.mem_cons_self _ _).2 ⟨_, reads, rfl⟩, (rest _).2 ⟨_, reads', ?_⟩⟩
        exact (List.append_assoc ..).symm

theorem traverseGroups_eq_some (node : Json) : ∀ output output', traverseGroups node output = some output' ↔
    ∃ groups, Reads node groups ∧ output' = output ++ groups := by
  intro output output'
  rw [traverseGroups]
  constructor
  · intro h
    simp only [Option.bind_eq_bind, Option.bind_eq_some_iff] at h
    obtain ⟨_, type, kind, asStr, h⟩ := h
    rw [Json.asStr_eq_some.1 asStr] at type
    split at h
    · rename_i branch
      subst branch
      split at h
      · rename_i children data
        split at h
        · cases h
        · rename_i some
          have each := fun child (member : child ∈ children) =>
            have := Json.sizeOf_item data member
            traverseGroups_eq_some child
          obtain ⟨groups, reads, same⟩ := (foldlM_traverseGroups each).1 h
          exact ⟨groups, .branch type data (mt List.isEmpty_iff.2 some) reads, same⟩
      · cases h
    · split at h
      · rename_i leaf
        subst leaf
        simp only [Option.bind_eq_some_iff] at h
        obtain ⟨data, found, data', object, idv, id, name, nonEmpty, views, viewsFound, items, array, h⟩ := h
        split at h
        · cases h
        · rename_i some
          simp only [Option.bind_eq_some_iff] at h
          obtain ⟨names, strings, same⟩ := h
          rw [Json.asObject_eq_some.1 object] at found
          rw [Json.asArray_eq_some.1 array] at viewsFound
          cases same
          exact ⟨_, .leaf type found id nonEmpty viewsFound (mt List.isEmpty_iff.2 some) strings, rfl⟩
      · cases h
  · rintro ⟨groups, reads, rfl⟩
    cases reads with
    | leaf type data id name views some names => simp_all [Json.asStr, Json.asObject, Json.asArray]
    | branch type data some reads =>
      rw [type]
      simp only [Json.asStr, Option.bind_eq_bind, Option.bind_some]
      rw [if_pos trivial]
      split
      · rename_i _ found
        cases found.symm.trans data
        rw [if_neg (mt List.isEmpty_iff.1 some)]
        refine (foldlM_traverseGroups fun child member => ?_).2 ⟨_, reads, rfl⟩
        have := Json.sizeOf_item data member
        exact traverseGroups_eq_some child
      · rename_i bad
        exact (bad _ data).elim
termination_by sizeOf node

/-- The panels that show terminals, with their panes. -/
inductive Declares (parsers : Parsers) : List (String × Json) → List (String × Daemon.Uuid) → Prop
  | nil : Declares parsers [] []
  | other : panelPane parsers panelId panel = some none → Declares parsers panels terminals →
      Declares parsers ((panelId, panel) :: panels) terminals
  | terminal : panelPane parsers panelId panel = some (some paneId) → Declares parsers panels terminals →
      Declares parsers ((panelId, panel) :: panels) ((panelId, paneId) :: terminals)

section Declarations

variable {parsers : Parsers} {panels : List (String × Json)} {terminals : List (String × Daemon.Uuid)}

theorem Declares.sublist (h : Declares parsers panels terminals) :
    (terminals.map Prod.fst).Sublist (panels.map Prod.fst) := by
  induction h with
  | nil => exact .slnil
  | other _ _ ih => exact ih.cons _
  | terminal _ _ ih => exact ih.cons_cons _

theorem addPanel_eq_some {found out : TerminalPanels × List Daemon.Uuid} {panel : String × Json} :
    addPanel parsers found panel = some out ↔
      (panelPane parsers panel.1 panel.2 = some none ∧ out = found) ∨
      ∃ paneId, panelPane parsers panel.1 panel.2 = some (some paneId) ∧ paneId ∉ found.2 ∧
        out = (found.1.insert panel.1 paneId, found.2 ++ [paneId]) := by
  rw [addPanel]
  cases panelPane parsers panel.1 panel.2 with
  | none => simp
  | some pane =>
    cases pane with
    | none => simp [eq_comm]
    | some paneId =>
      by_cases h : paneId ∈ found.2
      · simp [h]
      · simp [h, eq_comm]

theorem foldlM_addPanel {past : List (String × Daemon.Uuid)} {out : TerminalPanels × List Daemon.Uuid}
    (start : (past.map Prod.snd).Nodup) :
    panels.foldlM (addPanel parsers) (collect past, past.map Prod.snd) = some out ↔
      ∃ terminals, Declares parsers panels terminals ∧ ((past ++ terminals).map Prod.snd).Nodup ∧
        out = (collect (past ++ terminals), (past ++ terminals).map Prod.snd) := by
  induction panels generalizing past with
  | nil =>
    constructor
    · intro h
      cases h
      refine ⟨[], .nil, ?_, ?_⟩ <;> rw [List.append_nil]
      exact start
    · rintro ⟨_, ⟨⟩, _, rfl⟩
      rw [List.append_nil]
      rfl
  | cons panel panels ih =>
    obtain ⟨panelId, panel⟩ := panel
    rw [List.foldlM_cons, Option.bind_eq_bind, Option.bind_eq_some_iff]
    have extended (paneId : Daemon.Uuid) :
        ((collect past).insert panelId paneId, past.map Prod.snd ++ [paneId]) =
          (collect (past ++ [(panelId, paneId)]), (past ++ [(panelId, paneId)]).map Prod.snd) := by
      rw [collect_append_singleton, List.map_append, List.map_singleton]
    have regroup (paneId : Daemon.Uuid) (terminals : List (String × Daemon.Uuid)) :
        past ++ [(panelId, paneId)] ++ terminals = past ++ (panelId, paneId) :: terminals := by
      rw [List.append_assoc, List.singleton_append]
    constructor
    · intro h
      obtain ⟨middle, first, h⟩ := h
      rcases addPanel_eq_some.1 first with ⟨other, rfl⟩ | ⟨paneId, terminal, fresh, rfl⟩
      · obtain ⟨terminals, declares, nodup, same⟩ := (ih start).1 h
        exact ⟨terminals, .other other declares, nodup, same⟩
      · have start' : ((past ++ [(panelId, paneId)]).map Prod.snd).Nodup := by
          rw [List.map_append, List.map_singleton]
          exact nodup_snoc.2 ⟨fresh, start⟩
        rw [extended] at h
        obtain ⟨terminals, declares, nodup, same⟩ := (ih start').1 h
        rw [regroup] at nodup same
        exact ⟨_, .terminal terminal declares, nodup, same⟩
    · rintro ⟨terminals, declares, nodup, same⟩
      cases declares with
      | other other declares =>
        exact ⟨_, addPanel_eq_some.2 (.inl ⟨other, rfl⟩), (ih start).2 ⟨terminals, declares, nodup, same⟩⟩
      | terminal terminal declares =>
        rename_i paneId terminals
        rw [← regroup] at nodup same
        have start' : ((past ++ [(panelId, paneId)]).map Prod.snd).Nodup := by
          rw [List.map_append] at nodup
          exact nodup.of_append_left
        have fresh : paneId ∉ past.map Prod.snd := by
          rw [List.map_append, List.map_singleton] at start'
          exact (nodup_snoc.1 start').1
        refine ⟨_, addPanel_eq_some.2 (.inr ⟨paneId, terminal, fresh, rfl⟩), ?_⟩
        rw [extended]
        exact (ih start').2 ⟨terminals, declares, nodup, same⟩

end Declarations

/-- A terminal tab: its pane and where the pane stands. -/
structure Shown where
  pane : Daemon.Uuid
  groupId : String
  groupOrder : Nat
  tabOrder : Nat

def Shown.position (tab : Shown) (order : Nat) : PaneLayoutPosition :=
  ⟨tab.groupId, .ofNat tab.groupOrder, .ofNat tab.tabOrder, .ofNat order⟩

/-- What a saved layout says: its panels, the terminals among them, and its groups in reading order. -/
structure Layout where
  panels : List String
  terminals : List (String × Daemon.Uuid)
  groups : List DockGroup

namespace Layout

variable (layout : Layout)

def views : List String := layout.groups.flatMap DockGroup.views

def shownAt (group : DockGroup × Nat) (tab : String × Nat) : Option Shown :=
  (layout.terminals.lookup tab.1).map fun pane => ⟨pane, group.1.id, group.2, tab.2⟩

def shown : List Shown :=
  layout.groups.zipIdx.flatMap fun group => group.1.views.zipIdx.filterMap (layout.shownAt group)

def reading : List Daemon.Uuid := layout.shown.map Shown.pane

def positions : Positions := enumerated Shown.pane Shown.position layout.shown

/-- The layout shows every live pane once, and no other terminal. -/
structure Covers (live : List Daemon.Uuid) : Prop where
  groups : (layout.groups.map DockGroup.id).Nodup
  views : layout.views.Nodup
  declared : ∀ view ∈ layout.views, view ∈ layout.panels
  terminals : (layout.terminals.map Prod.snd).Perm live
  reading : layout.reading.Perm live

/-- Its numbers are `u32`s, and so is the one after the last. -/
structure Fits : Prop where
  groups : layout.groups.length ≤ UInt32.size
  tabs : ∀ tab ∈ layout.shown, tab.tabOrder < UInt32.size
  panes : layout.shown.length < UInt32.size

end Layout

/-- How far the loop has come. -/
structure Progress where
  groups : List (DockGroup × Nat)
  views : List String
  shown : List Shown

namespace Progress

variable (layout : Layout) (t : Progress)

def view (group : DockGroup × Nat) (t : Progress) (tab : String × Nat) : Progress :=
  { t with views := t.views ++ [tab.1], shown := t.shown ++ (layout.shownAt group tab).toList }

def group (t : Progress) (group : DockGroup × Nat) : Progress :=
  group.1.views.zipIdx.foldl (view layout group) { t with groups := t.groups ++ [group] }

def placing : Placing where
  seenGroups := t.groups.map fun group => group.1.id
  seenViews := t.views
  positions := enumerated Shown.pane Shown.position t.shown
  globalOrder := .ofNat t.shown.length

/-- What the loop has checked. -/
structure Sound : Prop where
  groups : (t.groups.map fun group => group.1.id).Nodup
  few : ∀ group ∈ t.groups, group.2 < UInt32.size
  views : t.views.Nodup
  declared : ∀ view ∈ t.views, view ∈ layout.panels
  panes : (t.shown.map Shown.pane).Nodup
  tabs : ∀ tab ∈ t.shown, tab.tabOrder < UInt32.size
  small : t.shown.length < UInt32.size

variable {layout t} {group : DockGroup × Nat} {tab : String × Nat}

theorem Sound.of_view (sound : (view layout group t tab).Sound layout) : t.Sound layout where
  groups := sound.groups
  few := sound.few
  views := (nodup_snoc.1 sound.views).2
  declared := fun view member => sound.declared view (List.mem_append_left _ member)
  panes := by
    have panes := sound.panes
    rw [view, List.map_append] at panes
    exact panes.of_append_left
  tabs := fun tab member => sound.tabs tab (List.mem_append_left _ member)
  small := by
    have small := sound.small
    rw [view, List.length_append] at small
    omega

theorem checkedSucc_ofNat {n : Nat} (small : n < UInt32.size) {v : UInt32} :
    checkedSucc (.ofNat n) = some v ↔ n + 1 < UInt32.size ∧ v = .ofNat (n + 1) := by
  rw [checkedSucc, UInt32.toNat_ofNat_of_lt' small, u32TryFrom_eq_some]

theorem view_none (h : layout.shownAt group tab = none) :
    view layout group t tab = { t with views := t.views ++ [tab.1] } := by
  rw [view, h, Option.toList_none, List.append_nil]

theorem view_some {shown : Shown} (h : layout.shownAt group tab = some shown) :
    view layout group t tab = { t with views := t.views ++ [tab.1], shown := t.shown ++ [shown] } := by
  rw [view, h, Option.toList_some]

theorem sound_view (sound : t.Sound layout) : (view layout group t tab).Sound layout ↔
    tab.1 ∉ t.views ∧ tab.1 ∈ layout.panels ∧ ∀ shown, layout.shownAt group tab = some shown →
      shown.pane ∉ t.shown.map Shown.pane ∧ shown.tabOrder < UInt32.size ∧ t.shown.length + 1 < UInt32.size := by
  constructor
  · intro next
    refine ⟨(nodup_snoc.1 next.views).1, next.declared _ (List.mem_append_right _ (List.mem_singleton_self _)), ?_⟩
    intro shown at_
    rw [view_some at_] at next
    have panes := next.panes
    have small := next.small
    rw [List.map_append, List.map_singleton] at panes
    rw [List.length_append] at small
    exact ⟨(nodup_snoc.1 panes).1, next.tabs _ (List.mem_append_right _ (List.mem_singleton_self _)), small⟩
  · rintro ⟨fresh, declared, last⟩
    have views : (t.views ++ [tab.1]).Nodup := nodup_snoc.2 ⟨fresh, sound.views⟩
    have allDeclared : ∀ view ∈ t.views ++ [tab.1], view ∈ layout.panels := by
      intro view member
      rcases List.mem_append.1 member with before | last
      · exact sound.declared view before
      · rw [List.mem_singleton.1 last]
        exact declared
    cases at_ : layout.shownAt group tab with
    | none =>
      rw [view_none at_]
      exact { sound with views, declared := allDeclared }
    | some shown =>
      obtain ⟨unplaced, tabSmall, small⟩ := last shown at_
      rw [view_some at_]
      refine { sound with views, declared := allDeclared, panes := ?_, tabs := ?_, small := ?_ }
      · rw [List.map_append, List.map_singleton]
        exact nodup_snoc.2 ⟨unplaced, sound.panes⟩
      · intro tab member
        rcases List.mem_append.1 member with before | last
        · exact sound.tabs tab before
        · rw [List.mem_singleton.1 last]
          exact tabSmall
      · rw [List.length_append]
        exact small

theorem Sound.enter (sound : t.Sound layout)
    (fresh : group.1.id ∉ (t.groups.map fun group => group.1.id) ∧ group.2 < UInt32.size) :
    Sound layout { t with groups := t.groups ++ [group] } where
  groups := by
    rw [List.map_append, List.map_singleton]
    exact nodup_snoc.2 ⟨fresh.1, sound.groups⟩
  few := by
    intro g member
    rcases List.mem_append.1 member with before | last
    · exact sound.few g before
    · rw [List.mem_singleton.1 last]
      exact fresh.2
  views := sound.views
  declared := sound.declared
  panes := sound.panes
  tabs := sound.tabs
  small := sound.small

theorem Sound.entered (sound : Sound layout { t with groups := t.groups ++ [group] }) :
    group.1.id ∉ (t.groups.map fun group => group.1.id) ∧ group.2 < UInt32.size := by
  have groups := sound.groups
  rw [List.map_append, List.map_singleton] at groups
  exact ⟨(nodup_snoc.1 groups).1, sound.few _ (List.mem_append_right _ (List.mem_singleton_self _))⟩

theorem Sound.of_group (sound : (t.group layout group).Sound layout) : t.Sound layout := by
  have entered : Sound layout { t with groups := t.groups ++ [group] } := of_foldl (fun t tab => Sound.of_view) sound
  have groups := entered.groups
  rw [List.map_append] at groups
  exact { entered with
    groups := groups.of_append_left
    few := fun g member => entered.few g (List.mem_append_left _ member) }

theorem foldl_view {tabs : List (String × Nat)} : tabs.foldl (view layout group) t =
    { t with views := t.views ++ tabs.map Prod.fst, shown := t.shown ++ tabs.filterMap (layout.shownAt group) } := by
  induction tabs generalizing t with
  | nil => simp
  | cons tab tabs ih =>
    rw [List.foldl_cons, ih, view]
    cases here : layout.shownAt group tab <;> simp [here]

theorem foldl_group {groups : List (DockGroup × Nat)} : groups.foldl (Progress.group layout) t =
    { groups := t.groups ++ groups
      views := t.views ++ groups.flatMap fun group => group.1.views
      shown := t.shown ++ groups.flatMap fun group => group.1.views.zipIdx.filterMap (layout.shownAt group) } := by
  induction groups generalizing t with
  | nil => simp
  | cons group groups ih =>
    rw [List.foldl_cons, ih, Progress.group, foldl_view, List.zipIdx_map_fst]
    simp

def whole (layout : Layout) : Progress := ⟨layout.groups.zipIdx, layout.views, layout.shown⟩

theorem placing_append_singleton (views : List String) (shown : Shown) :
    placing { t with views, shown := t.shown ++ [shown] } =
      { t.placing with
        seenViews := views
        positions := t.placing.positions.insert shown.pane (shown.position t.shown.length)
        globalOrder := .ofNat (t.shown.length + 1) } := by
  rw [placing, enumerated_append_singleton, List.length_append]
  rfl

section Steps

variable {panels : List (String × Json)} (names : layout.panels = panels.map Prod.fst)
  (keys : (layout.terminals.map Prod.fst).Nodup)

include names keys

theorem placeView_eq_some {p : Placing} (sound : t.Sound layout) :
    placeView panels (collect layout.terminals) group.1.id (.ofNat group.2) t.placing tab = some p ↔
      (view layout group t tab).Sound layout ∧ p = (view layout group t tab).placing := by
  have unplaced : ∀ pane, pane ∉ t.placing.positions ↔ pane ∉ t.shown.map Shown.pane :=
    fun pane => not_congr mem_enumerated
  rw [sound_view sound, names, placeView]
  simp only [Option.bind_eq_bind, Option.bind_eq_some_iff, lookup_collect_eq keys, Option.guard_eq_some',
    exists_const, and_assoc]
  apply and_congr_right
  intro _
  apply and_congr_right
  intro _
  cases found : layout.terminals.lookup tab.1 with
  | none =>
    have here : layout.shownAt group tab = none := by rw [Layout.shownAt, found, Option.map_none]
    rw [view_none here, here]
    constructor
    · intro h
      cases h
      exact ⟨(fun shown none => by cases none), rfl⟩
    · rintro ⟨_, rfl⟩
      rfl
  | some paneId =>
    have here : layout.shownAt group tab = some ⟨paneId, group.1.id, group.2, tab.2⟩ := by
      rw [Layout.shownAt, found, Option.map_some]
    rw [view_some here, here, placing_append_singleton]
    simp only [Option.bind_eq_some_iff, Option.guard_eq_some', unplaced, Option.some.injEq, forall_eq']
    constructor
    · rintro ⟨_, tabOrder, _, fresh, _, next, h⟩
      obtain ⟨tabSmall, rfl⟩ := u32TryFrom_eq_some.1 tabOrder
      obtain ⟨small, rfl⟩ := (checkedSucc_ofNat sound.small).1 next
      cases h
      exact ⟨⟨fresh, tabSmall, small⟩, rfl⟩
    · rintro ⟨⟨fresh, tabSmall, small⟩, rfl⟩
      exact ⟨_, u32TryFrom_eq_some.2 ⟨tabSmall, rfl⟩, ⟨⟩, fresh, _,
        (checkedSucc_ofNat sound.small).2 ⟨small, rfl⟩, rfl⟩

theorem placeGroup_eq_some {p : Placing} (sound : t.Sound layout) :
    placeGroup panels (collect layout.terminals) t.placing group = some p ↔
      (t.group layout group).Sound layout ∧ p = (t.group layout group).placing := by
  have views (entered : Sound layout { t with groups := t.groups ++ [group] }) :
      group.1.views.zipIdx.foldlM (placeView panels (collect layout.terminals) group.1.id (.ofNat group.2))
          (placing { t with groups := t.groups ++ [group] }) = some p ↔
        (t.group layout group).Sound layout ∧ p = (t.group layout group).placing :=
    foldlM_eq_some (fun t tab => Sound.of_view) (fun t tab p sound => placeView_eq_some names keys sound) entered
  have seen : t.placing.seenGroups ++ [group.1.id] = (t.groups ++ [group]).map fun group => group.1.id := by
    rw [List.map_append]
    rfl
  rw [placeGroup]
  simp only [Option.bind_eq_bind, Option.bind_eq_some_iff, Option.guard_eq_some', exists_const, u32TryFrom_eq_some,
    seen]
  constructor
  · rintro ⟨fresh, _, ⟨few, rfl⟩, h⟩
    exact (views (sound.enter ⟨fresh, few⟩)).1 h
  · intro h
    have entered : Sound layout { t with groups := t.groups ++ [group] } := of_foldl (fun t tab => Sound.of_view) h.1
    exact ⟨entered.entered.1, _, ⟨entered.entered.2, rfl⟩, (views entered).2 h⟩

theorem foldlM_placeGroup {p : Placing} :
    layout.groups.zipIdx.foldlM (placeGroup panels (collect layout.terminals)) ⟨[], [], ∅, 0⟩ = some p ↔
      (whole layout).Sound layout ∧ p = (whole layout).placing := by
  have start : Sound layout ⟨[], [], []⟩ :=
    ⟨.nil, List.forall_mem_nil _, .nil, List.forall_mem_nil _, .nil, List.forall_mem_nil _, by decide⟩
  have gathered : layout.groups.zipIdx.foldl (Progress.group layout) ⟨[], [], []⟩ = whole layout := by
    rw [foldl_group, List.nil_append, List.nil_append, List.nil_append, ← List.flatMap_map, List.zipIdx_map_fst]
    rfl
  rw [← gathered]
  change List.foldlM _ (placing ⟨[], [], []⟩) _ = some p ↔ _
  exact foldlM_eq_some (fun t g => Sound.of_group) (fun t g p sound => placeGroup_eq_some names keys sound) start

end Steps

end Progress

theorem Layout.sound_whole {layout : Layout} : (Progress.whole layout).Sound layout ↔
    (layout.groups.map DockGroup.id).Nodup ∧ layout.views.Nodup ∧ (∀ view ∈ layout.views, view ∈ layout.panels) ∧
      layout.reading.Nodup ∧ layout.Fits := by
  have ids : (layout.groups.zipIdx.map fun group => group.1.id) = layout.groups.map DockGroup.id := by
    calc
      _ = (layout.groups.zipIdx.map Prod.fst).map DockGroup.id := List.map_map.symm
      _ = _ := by rw [List.zipIdx_map_fst]
  have few : (∀ group ∈ layout.groups.zipIdx, group.2 < UInt32.size) ↔ layout.groups.length ≤ UInt32.size := by
    constructor
    · intro below
      cases last : layout.groups.getLast? with
      | none =>
        rw [List.getLast?_eq_none_iff.1 last]
        exact Nat.zero_le _
      | some group =>
        rw [List.getLast?_eq_getElem?] at last
        have small := below (group, _) (List.mk_mem_zipIdx_iff_getElem?.2 last)
        dsimp only at small
        omega
    · intro few group member
      have below := (List.getElem?_eq_some_iff.1 (List.mk_mem_zipIdx_iff_getElem?.1 member)).1
      omega
  constructor
  · intro sound
    exact ⟨ids ▸ sound.groups, sound.views, sound.declared, sound.panes, few.1 sound.few, sound.tabs, sound.small⟩
  · rintro ⟨groups, views, declared, panes, fits⟩
    exact ⟨ids ▸ groups, few.2 fits.groups, views, declared, panes, fits.tabs, fits.panes⟩

/-- What the text says of the layout, when it can be read. -/
inductive Describes (parsers : Parsers) : String → Layout → Prop
  | mk : parsers.json raw = some envelope → (envelope.get "version").bind Json.asU64 = some 3 →
      envelope.get "dockview" = some (.obj dockview) → Json.lookup "panels" dockview = some (.obj panels) →
      Json.lookup "grid" dockview = some grid → grid.get "root" = some root → Declares parsers panels terminals →
      Reads root groups → Describes parsers raw ⟨panels.map Prod.fst, terminals, groups⟩

section Parsing

variable {parsers : Parsers} {panes : List PaneMeta} {raw : String} {positions : Positions}

theorem Layout.mem_terminals {layout : Layout} {pane : Daemon.Uuid} (member : pane ∈ layout.reading) :
    pane ∈ layout.terminals.map Prod.snd := by
  obtain ⟨tab, tabMem, rfl⟩ := List.mem_map.1 member
  obtain ⟨group, _, tabMem⟩ := List.mem_flatMap.1 tabMem
  obtain ⟨view, _, here⟩ := List.mem_filterMap.1 tabMem
  obtain ⟨pane, found, rfl⟩ := Option.map_eq_some_iff.1 here
  obtain ⟨front, behind, split, _⟩ := List.lookup_eq_some_iff.1 found
  rw [split, List.map_append, List.map_cons]
  exact List.mem_append_right _ List.mem_cons_self

theorem Layout.covers_iff {layout : Layout} {live : List Daemon.Uuid} (keys : (layout.terminals.map Prod.fst).Nodup)
    (distinct : live.Nodup) : layout.Covers live ∧ layout.Fits ↔
      (layout.terminals.map Prod.snd).Nodup ∧ (Progress.whole layout).Sound layout ∧
        layout.positions.keys.toFinset = live.toFinset ∧
          (collect layout.terminals).keys.length = live.toFinset.card := by
  have count : (collect layout.terminals).keys.length = layout.terminals.length :=
    ((perm_keys_collect keys).length_eq).trans (List.length_map ..)
  rw [count, List.toFinset_card_of_nodup distinct, Layout.sound_whole]
  constructor
  · rintro ⟨covers, fits⟩
    have reading := covers.reading.nodup_iff.2 distinct
    refine ⟨covers.terminals.nodup_iff.2 distinct, ?_, ?_, ?_⟩
    · exact ⟨covers.groups, covers.views, covers.declared, reading, fits⟩
    · exact List.toFinset_eq_of_perm _ _ ((perm_keys_enumerated reading).trans covers.reading)
    · rw [← covers.terminals.length_eq, List.length_map]
  · rintro ⟨panes, ⟨groups, views, declared, reading, fits⟩, placed, all⟩
    have perm : layout.reading.Perm live := by
      apply List.perm_of_nodup_nodup_toFinset_eq reading distinct
      rw [← placed]
      exact (List.toFinset_eq_of_perm _ _ (perm_keys_enumerated reading)).symm
    have sub : live.Subperm (layout.terminals.map Prod.snd) := by
      apply distinct.subperm
      intro pane member
      exact mem_terminals (perm.mem_iff.2 member)
    refine ⟨⟨groups, views, declared, ?_, perm⟩, fits⟩
    exact (sub.perm_of_length_le (by rw [List.length_map, all])).symm

theorem nodup_panels {envelope : Json} {dockview panels : List (String × Json)}
    (json : parsers.json raw = some envelope) (dock : envelope.get "dockview" = some (.obj dockview))
    (found : Json.lookup "panels" dockview = some (.obj panels)) :
    (panels.map Prod.fst).Nodup := by
  have keyed := (parsers.keyed raw envelope json).get dock
  cases keyed with
  | obj _ fields =>
    cases fields _ (Json.mem_of_lookup found) with
    | obj nodup _ => exact nodup

theorem parseV3Positions_eq_some (distinct : (panes.map PaneMeta.id).Nodup) :
    parseV3Positions parsers panes raw = some positions ↔ ∃ layout, Describes parsers raw layout ∧
      layout.Covers (panes.map PaneMeta.id) ∧ layout.Fits ∧ positions = layout.positions := by
  have count : (panes.map PaneMeta.id).toFinset.card = panes.length := by
    rw [List.toFinset_card_of_nodup distinct, List.length_map]
  have gather (panels : List (String × Json)) (out : TerminalPanels × List Daemon.Uuid) :
      panels.foldlM (addPanel parsers) (∅, []) = some out ↔ ∃ terminals, Declares parsers panels terminals ∧
        (terminals.map Prod.snd).Nodup ∧ out = (collect terminals, terminals.map Prod.snd) :=
    @foldlM_addPanel parsers panels [] out .nil
  rw [parseV3Positions]
  simp only [Option.bind_eq_bind, Option.bind_eq_some_iff, Option.guard_eq_some', exists_const,
    Json.asObject_eq_some]
  constructor
  · rintro ⟨envelope, json, version, _, dockview, dock, rfl, _, panelsOf, panels, rfl, grid, gridOf, root, rootOf, h⟩
    obtain ⟨_, gathered, groups, traversed, placing, placed, ⟨_, live⟩, all, h⟩ := h
    obtain ⟨terminals, declares, panesNodup, rfl⟩ := (gather _ _).1 gathered
    obtain ⟨groups, reads, rfl⟩ := (traverseGroups_eq_some root _ _).1 traversed
    have keys := (nodup_panels json dockview panelsOf).sublist declares.sublist
    obtain ⟨sound, rfl⟩ :=
      (@Progress.foldlM_placeGroup ⟨panels.map Prod.fst, terminals, groups⟩ panels rfl keys placing).1 placed
    cases h
    obtain ⟨covers, fits⟩ := (Layout.covers_iff keys distinct).2 ⟨panesNodup, sound, live, all⟩
    have version := Option.bind_eq_some_iff.2 version
    exact ⟨_, .mk json version dockview panelsOf gridOf rootOf declares reads, covers, fits, rfl⟩
  · rintro ⟨_, describes, covers, fits, rfl⟩
    cases describes with
    | mk json version dockview panelsOf gridOf rootOf declares reads =>
      have keys := (nodup_panels json dockview panelsOf).sublist declares.sublist
      obtain ⟨panesNodup, sound, live, all⟩ := (Layout.covers_iff keys distinct).1 ⟨covers, fits⟩
      have version := Option.bind_eq_some_iff.1 version
      exact ⟨_, json, version, _, dockview, _, rfl, _, panelsOf, _, rfl, _, gridOf, _, rootOf,
        _, (gather _ _).2 ⟨_, declares, panesNodup, rfl⟩, _, (traverseGroups_eq_some _ _ _).2 ⟨_, reads, rfl⟩,
        _, (Progress.foldlM_placeGroup rfl keys).2 ⟨sound, rfl⟩, ⟨count, live⟩, all, rfl⟩

end Parsing

/-- There is one position for each pane, and the panes in turn have the numbers from `0` on. -/
structure Follow (positions : Positions) (order : List Daemon.Uuid) : Prop where
  keys : positions.keys.Perm order
  orders : (positions.entries.map fun entry => entry.2.order.toNat).Perm (List.range order.length)
  placed : ∀ i pane, order[i]? = some pane →
    ∃ position, positions.lookup pane = some position ∧ position.order.toNat = i

theorem follow_enumerated {key : α → Daemon.Uuid} {value : α → Nat → PaneLayoutPosition} {xs : List α}
    (distinct : (xs.map key).Nodup) (numbered : ∀ x, ∀ i < xs.length, (value x i).order.toNat = i) :
    Follow (enumerated key value xs) (xs.map key) where
  keys := perm_keys_enumerated distinct
  orders := by
    rw [List.length_map]
    refine perm_enumerated distinct (fun position : PaneLayoutPosition => position.order.toNat) ?_
    intro x i member
    exact numbered x i (List.getElem?_eq_some_iff.1 (List.mk_mem_zipIdx_iff_getElem?.1 member)).1
  placed := by
    intro i pane here
    rw [List.getElem?_map, Option.map_eq_some_iff] at here
    obtain ⟨x, here, rfl⟩ := here
    exact ⟨_, lookup_enumerated distinct here, numbered x i (List.getElem?_eq_some_iff.1 here).1⟩

theorem Layout.follow (layout : Layout) {live : List Daemon.Uuid} (distinct : live.Nodup)
    (covers : layout.Covers live) (fits : layout.Fits) : Follow layout.positions layout.reading := by
  apply follow_enumerated (covers.reading.nodup_iff.2 distinct)
  intro tab i small
  exact UInt32.toNat_ofNat_of_lt' (Nat.lt_trans small fits.panes)

section Fallback

variable {parsers : Parsers} {layoutJson : Option String} {panes : List PaneMeta}

theorem follow_fallback (distinct : (panes.map PaneMeta.id).Nodup) (few : panes.length ≤ UInt32.size) :
    Follow (fallbackPositions panes) (panes.map PaneMeta.id) := by
  apply follow_enumerated distinct
  intro pane i below
  have small : i < UInt32.size := Nat.lt_of_lt_of_le below few
  dsimp only [fallbackPosition]
  rw [u32TryFrom_eq_some.2 ⟨small, rfl⟩, Option.getD_some, UInt32.toNat_ofNat_of_lt' small]

/-- A layout that covers the live panes decides, any other leaves them in the order they came in. -/
theorem paneLayoutPositions_cases (parsers : Parsers) (layoutJson : Option String)
    (distinct : (panes.map PaneMeta.id).Nodup) :
    (∃ raw layout, layoutJson = some raw ∧ Describes parsers raw layout ∧ layout.Covers (panes.map PaneMeta.id) ∧
      layout.Fits ∧ paneLayoutPositions parsers layoutJson panes = layout.positions) ∨
    ((∀ raw layout, layoutJson = some raw → Describes parsers raw layout → layout.Covers (panes.map PaneMeta.id) →
      ¬layout.Fits) ∧ paneLayoutPositions parsers layoutJson panes = fallbackPositions panes) := by
  cases layoutJson with
  | none => exact .inr ⟨(fun raw layout none => by cases none), rfl⟩
  | some raw =>
    cases parsed : parseV3Positions parsers panes raw with
    | none =>
      refine .inr ⟨?_, by rw [paneLayoutPositions, parsed, Option.getD_none]⟩
      rintro _ layout ⟨⟩ describes covers fits
      cases parsed.symm.trans ((parseV3Positions_eq_some distinct).2 ⟨layout, describes, covers, fits, rfl⟩)
    | some positions =>
      obtain ⟨layout, describes, covers, fits, rfl⟩ := (parseV3Positions_eq_some distinct).1 parsed
      refine .inl ⟨raw, layout, rfl, describes, covers, fits, ?_⟩
      rw [paneLayoutPositions, parsed, Option.getD_some]

theorem mem_paneLayoutPositions (distinct : (panes.map PaneMeta.id).Nodup) {pane : Daemon.Uuid}
    (member : pane ∈ panes.map PaneMeta.id) : pane ∈ paneLayoutPositions parsers layoutJson panes := by
  rcases paneLayoutPositions_cases parsers layoutJson distinct with ⟨_, layout, _, _, covers, _, same⟩ | ⟨_, same⟩ <;>
    rw [same]
  · exact mem_enumerated.2 (covers.reading.mem_iff.2 member)
  · exact mem_enumerated.2 member

theorem follow_reading (distinct : (panes.map PaneMeta.id).Nodup) {raw : String} {layout : Layout}
    (describes : Describes parsers raw layout) (covers : layout.Covers (panes.map PaneMeta.id)) (fits : layout.Fits) :
    Follow (paneLayoutPositions parsers (some raw) panes) layout.reading := by
  have parsed := (parseV3Positions_eq_some distinct).2 ⟨layout, describes, covers, fits, rfl⟩
  rw [paneLayoutPositions, parsed, Option.getD_some]
  exact layout.follow distinct covers fits

theorem exists_follow (parsers : Parsers) (layoutJson : Option String) (distinct : (panes.map PaneMeta.id).Nodup)
    (few : panes.length ≤ UInt32.size) :
    ∃ order, order.Perm (panes.map PaneMeta.id) ∧ Follow (paneLayoutPositions parsers layoutJson panes) order := by
  rcases paneLayoutPositions_cases parsers layoutJson distinct with
    ⟨raw, layout, rfl, describes, covers, fits, _⟩ | ⟨_, same⟩
  · exact ⟨layout.reading, covers.reading, follow_reading distinct describes covers fits⟩
  · rw [same]
    exact ⟨_, .refl _, follow_fallback distinct few⟩

end Fallback

end VibeLink.Remote
