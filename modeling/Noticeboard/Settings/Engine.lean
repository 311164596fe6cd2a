import Noticeboard.Failure
import Noticeboard.Json.Record

/-!
# Engine settings

The weights of the popularity score, the least similarity that counts as a match, and the number
of items on a page.
-/

namespace Noticeboard

structure EngineSettings where
  commentWeight : Int64 := 1
  likeWeight : Int64 := 1
  saveWeight : Int64 := 1
  matchThreshold : Float := 0.3
  pageSize : UInt64 := 10

namespace EngineSettings

def standard : EngineSettings := {}

/-- A page holds at least one item, and the threshold is a number from zero on. -/
def check (settings : EngineSettings) : Except Failure Unit :=
  if settings.pageSize = 0 then .error .emptyPages
  else if !settings.matchThreshold.isFinite || settings.matchThreshold < 0 then
    .error (.badThreshold settings.matchThreshold)
  else .ok ()

def toJson (settings : EngineSettings) : Json :=
  Json.object
    [("comment_weight", Json.whole settings.commentWeight.toInt),
     ("like_weight", Json.whole settings.likeWeight.toInt),
     ("save_weight", Json.whole settings.saveWeight.toInt),
     ("match_threshold", Json.real settings.matchThreshold),
     ("page_size", Json.whole settings.pageSize.toNat)]

def reader : Json.RecordReader EngineSettings :=
  Json.RecordReader.value EngineSettings.mk
    |>.defaulted "comment_weight" standard.commentWeight Json.readInt64
    |>.defaulted "like_weight" standard.likeWeight Json.readInt64
    |>.defaulted "save_weight" standard.saveWeight Json.readInt64
    |>.defaulted "match_threshold" standard.matchThreshold Json.readFloat
    |>.defaulted "page_size" standard.pageSize Json.readSize

def ofJson : Json → Except Json.Problem EngineSettings :=
  reader.read "struct EngineConfig"

end EngineSettings
end Noticeboard
