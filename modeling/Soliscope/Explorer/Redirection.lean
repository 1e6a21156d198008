import Soliscope.Explorer.Failure
import Soliscope.Url.Join

/-! # Redirections

The place that a redirection points to is not asked, but it has to be an address that could be
asked.
-/

namespace Soliscope.Explorer

/-- The host of an address as it is shown. -/
def shownHostOf (address : Url.Address) : Except Setback (List Char) :=
  address.hostName.mapError fun flaw => .failed (.badHost flaw)

/-- An address made from others. -/
def madeAddress (made : Except Url.Flaw Url.Address) : Except Setback Url.Address :=
  made.mapError fun flaw => .brokeDown (.badUrl flaw)

/-- A target with a scheme gets the host of the address asked for if it has none. -/
def withHostOf (asked target : Url.Address) : Except Setback Url.Address :=
  if target.scheme.isEmpty then .ok target
  else do
    let host ← shownHostOf target
    if host.isEmpty then do
      let host ← shownHostOf asked
      madeAddress (target.withHost host)
    else pure target

/-- A target gets the fragment of the address asked for if it has none. -/
def withFragmentOf (asked target : Url.Address) : Except Setback Url.Address :=
  if !asked.fragmentText.isEmpty && target.fragmentText.isEmpty then
    madeAddress (target.withFragment asked.fragmentText)
  else .ok target

/-- Where a redirection from an address leads. -/
def redirectionTarget (asked : Url.Address) (location : String) :
    Except Setback Url.Address := do
  let target ← (Url.parse location).mapError fun flaw => Setback.failed (.badLocation flaw)
  let target ← withHostOf asked target
  let target ← if target.isAbsolute then pure target else madeAddress (asked.join target)
  let target ← withFragmentOf asked target
  let _ ← shownHostOf target
  pure target

end Soliscope.Explorer
