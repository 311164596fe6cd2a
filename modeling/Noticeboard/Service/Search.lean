import Noticeboard.Service.Call
import Noticeboard.Store.Advertisements

/-!
# Searching and listing

A search goes over all categories, or over all active advertisements.  A listing shows the same
records in their stored order, page by page.
-/

namespace Noticeboard.Service

variable {τ E F : Type}

def requestDetails (request : SearchRequest) : List (String × Json) :=
  [("query", .str (Json.outline? request.query)), ("page", .str (Json.outline? request.pageNo))]

/-- Answers a search over a corpus and notes the best score. -/
def rankNoted [Searchable E F] (settings : EngineSettings) (fields : List (WeightedField F))
    (params : SearchParams) (corpus : List E) : Store.Action τ (Page E) := do
  match params.query with
  | none => return Ranking.whole corpus
  | some query =>
    let found := Ranking.candidates settings fields query corpus
    if let best :: _ := found then
      Store.Action.note (.ranked query found.length best.score)
    Store.Action.ofExcept (Ranking.pageOfCandidates settings query params.page found)

def searching [Searchable E F] (settings : EngineSettings) (operation : Operation)
    (fields : List (WeightedField F)) (request : SearchRequest)
    (corpus : Store.Action τ (List E)) : Store.Action τ (Page E) := do
  Store.Action.note (.called operation (requestDetails request))
  finishingPage operation do
    let params ← Store.Action.ofExcept request.check
    rankNoted settings fields params (← corpus)

def searchCategories (settings : EngineSettings) (request : SearchRequest) :
    Store.Action τ (Page Category) :=
  searching settings .searchCategories categoryFields request Store.listCategories

/-- Inactive advertisements are never searched. -/
def searchAdvertisements (settings : EngineSettings) (request : SearchRequest) :
    Store.Action τ (Page Advertisement) :=
  searching settings .searchAdvertisements advertisementFields request Store.activeAdvertisements

def listing [Searchable E F] (settings : EngineSettings) (operation : Operation) (page : UInt32)
    (corpus : Store.Action τ (List E)) : Store.Action τ (Page E) :=
  finishingPage operation do
    let page ← Store.Action.ofExcept (checkPage page.toNat)
    let items ← corpus
    if items.isEmpty then Store.Action.fail (.nothingListed (Searchable.label E))
    return Ranking.pageOf settings items page

def listCategories (settings : EngineSettings) (page : UInt32) : Store.Action τ (Page Category) :=
  listing settings .listCategories page Store.listCategories

def listAdvertisements (settings : EngineSettings) (page : UInt32) :
    Store.Action τ (Page Advertisement) :=
  listing settings .listAdvertisements page Store.activeAdvertisements

end Noticeboard.Service
