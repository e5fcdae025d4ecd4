import TenantQuery.Proofs.Compilation.ClauseTexts
import TenantQuery.Proofs.Compilation.Drops
/-!
Nothing is lost, duplicated or dropped silently.

Every element of a request has a share in the result.  What is used has a part of the statement,
and what is dropped has a departure that says so, but nothing has both.  The statement is made of
the parts and the warnings of the departures, each in the order of the request.
-/

namespace TenantQuery

open Sql Compilation Identifier

/-- What an element of a request comes to: its part of the statement, if it has one, and the
departures that it causes. -/
structure Share (α : Type) where
  part : Option α
  adjustments : List Adjustment

namespace Share

variable {α : Type}

/-- An element that survives has a part and departures that fit it, and one that does not is
dropped with one departure. -/
inductive Settled (survives : Bool) (Fits : α → List Adjustment → Prop) : Share α → Prop where
  | kept {part : α} {notes : List Adjustment} (h : survives = true) (hfits : Fits part notes) :
      Settled survives Fits ⟨some part, notes⟩
  | dropped {adjustment : Adjustment} (h : survives = false) (hdrop : adjustment.isDrop) :
      Settled survives Fits ⟨none, [adjustment]⟩

end Share

/-- The shares of all elements of a request. -/
structure Ledger where
  dimensions : List (Share Column)
  metrics : List (Share Column)
  time : Share Condition
  filters : List (Share Condition)
  order : List (Share SortKey)

/-- All departures from a request, in the order of the elements that cause them. -/
def Ledger.adjustments (ledger : Ledger) : List Adjustment :=
  ledger.dimensions.flatMap Share.adjustments ++ ledger.metrics.flatMap Share.adjustments ++
    ledger.time.adjustments ++ ledger.filters.flatMap Share.adjustments ++
    ledger.order.flatMap Share.adjustments

namespace Compilation

/-- The column is the requested one, and at most its name is another one. -/
def ColumnRequest.Fits (request : ColumnRequest) (column : Column) (notes : List Adjustment) :
    Prop :=
  column.field = canonical request.field ∧ column.shape = request.shape ∧
    ∀ note ∈ notes, note.isNaming

/-- The share of a requested column that is kept, given the names of earlier columns. -/
def ColumnRequest.keptShare (request : ColumnRequest) (taken : List String) : Share Column :=
  let settled := resolveName taken (canonical request.field) request.requestedName
    request.defaultName
  ⟨some ⟨canonical request.field, request.shape, settled.1⟩, settled.2⟩

def ColumnRequest.Settled (access : Access) (table : String) (request : ColumnRequest)
    (share : Share Column) : Prop :=
  share.Settled (admits access table request.field) request.Fits

end Compilation

namespace Compilation

section Shares

variable (settings : Settings) (access : Access) (table : String) (today : Date)

variable {settings access table today}

theorem ColumnRequest.settled_of_admits {request : ColumnRequest} (taken : List String)
    (h : admits access table request.field) :
    request.Settled access table (request.keptShare taken) :=
  .kept h ⟨rfl, rfl, isNaming_resolveName _ _ _ _⟩

/-- Every requested column has one share, whatever names are taken, and what holds of requests
that are kept and of those that are dropped holds of all. -/
theorem exists_columnShares {R : ColumnRequest → Share Column → Prop}
    (hkept : ∀ request taken, admits access table request.field →
      R request (request.keptShare taken))
    (hdropped : ∀ request adjustment, admits access table request.field = false →
      authorize access table request.role request.field = .error adjustment →
        R request ⟨none, [adjustment]⟩)
    (taken : List String) (requests : List ColumnRequest) :
    ∃ shares : List (Share Column), List.Forall₂ R requests shares ∧
      selectColumns access table taken requests =
        (shares.filterMap Share.part, shares.flatMap Share.adjustments) := by
  -- Only a request that is kept takes a name.
  induction requests generalizing taken with
  | nil => exact ⟨[], .nil, rfl⟩
  | cons request rest ih =>
      cases hadmits : admits access table request.field with
      | false =>
          obtain ⟨adjustment, hresult, hstep⟩ :=
            selectColumns_cons_of_not_admits taken rest hadmits
          obtain ⟨shares, hshares, hselect⟩ := ih taken
          refine ⟨⟨none, [adjustment]⟩ :: shares,
            .cons (hdropped request adjustment hadmits hresult) hshares, ?_⟩
          rw [hstep, hselect]
          rfl
      | true =>
          have hstep := selectColumns_cons_of_admits taken rest hadmits
          obtain ⟨shares, hshares, hselect⟩ :=
            ih ((resolveName taken (canonical request.field) request.requestedName
              request.defaultName).1 :: taken)
          refine ⟨request.keptShare taken :: shares,
            .cons (hkept request taken hadmits) hshares, ?_⟩
          simp only [hstep, hselect]
          rfl

/-- The shares of the dimensions come before those of the metrics. -/
theorem exists_selectShares {R : ColumnRequest → Share Column → Prop}
    (hkept : ∀ request taken, admits access table request.field →
      R request (request.keptShare taken))
    (hdropped : ∀ request adjustment, admits access table request.field = false →
      authorize access table request.role request.field = .error adjustment →
        R request ⟨none, [adjustment]⟩)
    (intent : Intent) :
    ∃ dimensions metrics : List (Share Column),
      List.Forall₂ (fun dimension => R (.ofDimension dimension)) intent.dimensions dimensions ∧
      List.Forall₂ (fun metric => R (.ofMetric metric)) intent.metrics metrics ∧
      selectColumns access table [] (columnRequests intent) =
        (dimensions.filterMap Share.part ++ metrics.filterMap Share.part,
          dimensions.flatMap Share.adjustments ++ metrics.flatMap Share.adjustments) := by
  obtain ⟨shares, hsettled, hshares⟩ :=
    exists_columnShares hkept hdropped [] (columnRequests intent)
  have hlength : (intent.dimensions.map ColumnRequest.ofDimension).length =
      intent.dimensions.length := List.length_map _
  -- There are as many shares as requests, so both are cut at the same place.
  have hdimensions := List.forall₂_take intent.dimensions.length hsettled
  have hmetrics := List.forall₂_drop intent.dimensions.length hsettled
  rw [columnRequests, List.take_left' hlength, List.forall₂_map_left_iff] at hdimensions
  rw [columnRequests, List.drop_left' hlength, List.forall₂_map_left_iff] at hmetrics
  refine ⟨_, _, hdimensions, hmetrics, ?_⟩
  rw [← List.filterMap_append, ← List.flatMap_append, List.take_append_drop, hshares]

theorem ColumnRequest.settled_of_not_admits {request : ColumnRequest} {adjustment : Adjustment}
    (h : admits access table request.field = false)
    (hresult : authorize access table request.role request.field = .error adjustment) :
    request.Settled access table ⟨none, [adjustment]⟩ :=
  .dropped h (isDrop_of_authorize_error hresult)

variable (settings access table today)

end Shares

end Compilation

end TenantQuery
