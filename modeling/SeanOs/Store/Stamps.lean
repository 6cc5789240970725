import SeanOs.Lib.IsoOrder
import SeanOs.Store.WorkQueue

/-! The stamps of the store, whose order as texts is the order of the times they name. -/

namespace SeanOs

open Atomic Calendar

/-- A datetime in UTC, as every stamp of the store is. -/
abbrev UtcTime : Type := { moment : DateTime // moment.offset = some 0 }

namespace UtcTime

/-- The two shapes of a stamp: one with a fraction, and one without. -/
def shape (moment : UtcTime) : List Char :=
  wallText (moment.1.wall / second) ++
    ((if moment.1.wall % second = 0 then [] else '.' :: Decimal.digits 6 (moment.1.wall % second)) ++
      "+00:00".toList)

/-- A datetime in UTC is written in one of the two shapes. -/
theorem toList_isoformat (moment : UtcTime) : moment.1.isoformat.toList = moment.shape := by
  have zone : zoneText 0 = "+00:00".toList := by decide
  rw [DateTime.isoformat, String.toList_ofList, isoChars, moment.2, Option.elim_some, zone, shape,
    fractionText]

/-- Within UTC the offsets never decide, so that the texts are ordered as the wall clocks. -/
theorem isoformat_lt (one two : UtcTime) :
    one.1.isoformat < two.1.isoformat ↔ one.1.instant < two.1.instant := by
  rw [Calendar.isoformat_lt one.2 two.2]
  simp only [DateTime.instant, one.2, two.2, Option.getD_some, List.lt_irrefl, and_false, or_false]
  omega

end UtcTime

/-- The clock of a world, as a datetime in UTC. -/
def World.utc (world : World) : UtcTime := ⟨world.clock.utc, rfl⟩

/--
Text order is time order for stamps, whichever of the two shapes each of them has.

Two times the store takes from its clock are stored as texts of such an order, and the texts are what
its statements compare.
-/
theorem stamps_in_order :
    (∀ one two : UtcTime, one.1.isoformat < two.1.isoformat ↔ one.1.instant < two.1.instant) ∧
      (∀ moment : UtcTime, moment.1.isoformat.toList = moment.shape) ∧
        ∀ one two : World, (now.run one).1 = .ok one.stamp ∧
          (one.stamp < two.stamp ↔ one.utc.1.instant < two.utc.1.instant) :=
  ⟨UtcTime.isoformat_lt, UtcTime.toList_isoformat,
    fun one two => ⟨rfl, UtcTime.isoformat_lt one.utc two.utc⟩⟩

/-- The first instant of a second sorts in front of the others, and the dot behind the plus sign. -/
example : "2030-01-01T00:00:00+00:00" < "2030-01-01T00:00:00.000001+00:00" := by decide

end SeanOs
