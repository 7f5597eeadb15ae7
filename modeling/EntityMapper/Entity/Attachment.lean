import EntityMapper.Entity.Basic

set_option autoImplicit false

/-! Attaching instances to one another. An instance that is there already takes over what is
attached to its double. -/

namespace EntityMapper.Entity

/-- Puts something under the name of an association. -/
def put (name : String) (related : Related) (entity : Entity) : Entity :=
  entity.withRelations (Entries.insert name related entity.relations)

/-- Makes sure that something is attached under a name, an empty collection if nothing is. -/
def initMany (name : String) (entity : Entity) : Entity :=
  if (entity.related? name).isSome then entity else entity.put name (.many [])

/-- Changes the first item that passes a test, or appends a new one. -/
def updateFirst (passes : Entity → Bool) (change : Entity → Entity) (new : Entity) :
    List Entity → List Entity
  | [] => [new]
  | item :: rest =>
      if passes item then change item :: rest else item :: updateFirst passes change new rest

mutual

/-- Attaches everything that is listed under names. -/
def mergeRelations (entity : Entity) : List (String × Related) → Entity
  | [] => entity
  | (name, related) :: rest => mergeRelations (attach entity name related) rest
termination_by structural relations => relations

/-- Attaches one instance, or a collection of them. -/
def attach (entity : Entity) (name : String) : Related → Entity
  | .one child => attachOne entity name child
  | .many children => attachAll (entity.initMany name) name children
termination_by structural related => related

/-- Attaches instances to a collection, one after the other. -/
def attachAll (entity : Entity) (name : String) : List Entity → Entity
  | [] => entity
  | child :: rest => attachAll (attachMany entity name child) name rest
termination_by structural children => children

/-- Attaches a single instance; one that is equal to it takes over its relations, another one is
replaced. -/
def attachOne (entity : Entity) (name : String) : Entity → Entity
  | .mk schema fields stored relations state =>
      let child := Entity.mk schema fields stored relations state
      match entity.related? name with
      | some (.one existing) =>
          if existing.isSame child then
            entity.put name (.one (mergeRelations existing relations))
          else entity.put name (.one child)
      | _ => entity.put name (.one child)
termination_by structural child => child

/-- Adds an instance to a collection; one that is equal to it takes over its relations. -/
def attachMany (entity : Entity) (name : String) : Entity → Entity
  | .mk schema fields stored relations state =>
      let child := Entity.mk schema fields stored relations state
      let items :=
        match entity.related? name with
        | some (.many items) => items
        | _ => []
      entity.put name (.many
        (updateFirst (fun existing => existing.isSame child)
          (fun existing => mergeRelations existing relations) child items))
termination_by structural child => child

end

/-- Takes over the relations of another instance. -/
def merge (entity other : Entity) : Entity := mergeRelations entity other.relations

end EntityMapper.Entity
