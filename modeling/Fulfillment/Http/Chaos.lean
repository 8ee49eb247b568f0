import Fulfillment.Http.System

/-!
# Chaos switches

The payment and customer services have two chaos switches under `/api/v1/chaos`: failure
injection and slow mode. `GET` reports both; `POST /enable`, `/disable`, `/slow` and
`/slow/disable` flip them and say so. Switching failure injection off switches slow mode off
too.
-/

namespace Fulfillment.Http

namespace Chaos

/-- A route that changes the switches of a service and answers with a fixed message. -/
def switch (svc : Service) (path : String) (change : Chaos → Chaos)
    (message : List (String × String)) : Route Handler :=
  ⟨"POST", path, fun _ _ => do
    modify fun s => s.setChaos svc (change (s.chaosOf svc))
    return .ok (.obj (message.map fun (k, v) => (k, .str v)))⟩

/-- The chaos routes of a service. -/
def routes (svc : Service) : List (Route Handler) :=
  [⟨"GET", "/api/v1/chaos", fun _ _ => do
      let s ← get
      let c := s.chaosOf svc
      return .ok (.obj [("service", .str svc.name), ("chaos_enabled", .bool c.enabled),
        ("chaos_slow_mode", .bool c.slow), ("timestamp", .str s.clock.toText)])⟩,
   switch svc "/api/v1/chaos/enable" (fun c => { c with enabled := true })
     [("message", "Chaos mode enabled"), ("info", "40% of requests will fail randomly")],
   switch svc "/api/v1/chaos/disable" (fun _ => ⟨false, false⟩)
     [("message", "Chaos mode disabled")],
   switch svc "/api/v1/chaos/slow" (fun c => { c with slow := true })
     [("message", "Slow mode enabled"), ("info", "Requests will have 5-10 second delays")],
   switch svc "/api/v1/chaos/slow/disable" (fun c => { c with slow := false })
     [("message", "Slow mode disabled")]]

end Chaos

end Fulfillment.Http
