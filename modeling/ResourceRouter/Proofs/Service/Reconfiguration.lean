import ResourceRouter.Proofs.Stage
import ResourceRouter.Service

set_option autoImplicit false

/-!
Services that were built from a configuration and then given other parts. Replacing parts, in any
order, leaves the catalogue and the grouping of the configuration in place.
-/

namespace ResourceRouter

/-- A part of a service that may be replaced once the service is built. -/
inductive Replacement where
  | decoder (decoder : TokenDecoder)
  | identity (identity : Identity)
  | schema (schema : Schema)
  | dispatcher (dispatcher : Dispatcher)

namespace Service

/-- The service with one part replaced. -/
def replace (service : Service) : Replacement → Service
  | .decoder decoder => service.withDecoder decoder
  | .identity identity => service.withIdentity identity
  | .schema schema => service.withSchema schema
  | .dispatcher dispatcher => service.withDispatcher dispatcher

/-- The service with parts replaced one after the other. -/
def replaceAll (service : Service) (replacements : List Replacement) : Service :=
  replacements.foldl replace service

@[simp] theorem catalogue_replace (service : Service) (replacement : Replacement) :
    (service.replace replacement).catalogue = service.catalogue := by
  cases replacement <;> simp only [replace, withDecoder, withIdentity, withSchema, withDispatcher]

@[simp] theorem grouping_replace (service : Service) (replacement : Replacement) :
    (service.replace replacement).grouping = service.grouping := by
  cases replacement <;> simp only [replace, withDecoder, withIdentity, withSchema, withDispatcher]

/-- What a service keeps of its configuration, whatever parts of it are replaced. -/
structure Follows (service : Service) (config : Config) : Prop where
  catalogue : Catalogue.ofConfig config = .ok service.catalogue
  grouping : service.grouping = config.grouping

variable {config : Config} {service : Service}

theorem follows_ofConfig (configured : ofConfig config = .ok service) : service.Follows config := by
  obtain ⟨catalogue, accepted, rfl⟩ := Stage.map_eq_ok.mp configured
  exact ⟨accepted, rfl⟩

theorem Follows.replace (follows : service.Follows config) (replacement : Replacement) :
    (service.replace replacement).Follows config where
  catalogue := by rw [catalogue_replace]; exact follows.catalogue
  grouping := by rw [grouping_replace]; exact follows.grouping

theorem Follows.replaceAll (follows : service.Follows config) (replacements : List Replacement) :
    (service.replaceAll replacements).Follows config := by
  induction replacements generalizing service with
  | nil => exact follows
  | cons replacement rest ih => exact ih (follows.replace replacement)

end Service

end ResourceRouter
