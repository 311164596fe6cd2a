import Noticeboard.Main
import Noticeboard.Popularity.Counters
import Noticeboard.Proofs.AccessRights
import Noticeboard.Proofs.Appointments
import Noticeboard.Proofs.Browsing
import Noticeboard.Proofs.ByteOrder
import Noticeboard.Proofs.CloserRecords
import Noticeboard.Proofs.ComposedPatches
import Noticeboard.Proofs.EventSums
import Noticeboard.Proofs.ExactPoints
import Noticeboard.Proofs.FailedCalls
import Noticeboard.Proofs.FoundTitles
import Noticeboard.Proofs.HiddenAdvertisements
import Noticeboard.Proofs.HiddenOrMissing
import Noticeboard.Proofs.InstantForms
import Noticeboard.Proofs.Integrity
import Noticeboard.Proofs.CreatedNames
import Noticeboard.Proofs.Listings
import Noticeboard.Proofs.NamedCategories
import Noticeboard.Proofs.NormalizedNames
import Noticeboard.Proofs.NormalizedTexts
import Noticeboard.Proofs.PageSlices
import Noticeboard.Proofs.Patches
import Noticeboard.Proofs.Publication
import Noticeboard.Proofs.RankedParts
import Noticeboard.Proofs.RecordForms
import Noticeboard.Proofs.Refusals
import Noticeboard.Proofs.RefusedPatches
import Noticeboard.Proofs.ScoreAccounting
import Noticeboard.Proofs.SearchGrammar
import Noticeboard.Proofs.SeededTwice
import Noticeboard.Proofs.SingleReads
import Noticeboard.Proofs.StoredOrder
import Noticeboard.Proofs.Timeline
import Noticeboard.Proofs.TwoBackends
import Noticeboard.Proofs.UnmovedResults
import Noticeboard.Proofs.WordSets
import Noticeboard.Seeding
