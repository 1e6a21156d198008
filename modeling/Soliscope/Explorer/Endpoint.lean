import Soliscope.Explorer.ChainId

/-! # Explorer endpoints

Where the explorer of a chain is found.  A registry holds one endpoint for each chain, in the order
in which the chains were first mentioned.
-/

namespace Soliscope.Explorer

/-- The explorer of one chain: the address of its programming interface, and that of its pages. -/
structure Endpoint where
  chain : ChainId
  apiUrl : String
  explorerUrl : String
  displayName : String

/-- The known endpoints. -/
abbrev Registry := List Endpoint

namespace Registry

/-- Put an endpoint into a registry: in the place of the one for its chain, or at the end. -/
def insert (endpoint : Endpoint) : Registry → Registry
  | [] => [endpoint]
  | other :: rest =>
    if other.chain.key == endpoint.chain.key then endpoint :: rest
    else other :: insert endpoint rest

/-- The registry of some endpoints. -/
def ofList (endpoints : List Endpoint) : Registry :=
  endpoints.foldl (fun registry endpoint => registry.insert endpoint) []

/-- The endpoint of a chain. -/
def find? (registry : Registry) (chain : ChainId) : Option Endpoint :=
  List.find? (·.chain.key == chain.key) registry

/-- The built-in endpoints. -/
def builtin : Registry := [
  ⟨.number 1, "https://api.etherscan.io/api", "https://etherscan.io", "Ethereum Mainnet"⟩,
  ⟨.number 11155111, "https://api-sepolia.etherscan.io/api", "https://sepolia.etherscan.io",
    "Sepolia Testnet"⟩,
  ⟨.number 137, "https://api.polygonscan.com/api", "https://polygonscan.com", "Polygon"⟩,
  ⟨.number 80001, "https://api-testnet.polygonscan.com/api", "https://mumbai.polygonscan.com",
    "Mumbai Testnet"⟩,
  ⟨.number 56, "https://api.bscscan.com/api", "https://bscscan.com", "BNB Smart Chain"⟩,
  ⟨.number 42161, "https://api.arbiscan.io/api", "https://arbiscan.io", "Arbitrum One"⟩,
  ⟨.number 10, "https://api-optimistic.etherscan.io/api", "https://optimistic.etherscan.io",
    "Optimism"⟩]

end Registry

end Soliscope.Explorer
