import SpringSkeleton.Artifact
import SpringSkeleton.FeatureModule.Basic

namespace SpringSkeleton.FeatureModule

-- The column name of a table and the accessors of a field use other cases of the names.
def tableName (spec : FeatureModule) : String := Text.uppercase spec.entity

def accessorName (field : String) : String := Text.capitalize field

def fieldLine (field : String × String) : String :=
  "    private " ++ field.2 ++ " " ++ field.1 ++ ";"

def accessorLines (field : String × String) : List String :=
  ["",
   "    public " ++ field.2 ++ " get" ++ accessorName field.1 ++ "() \x7b return " ++ field.1 ++ "; \x7d",
   "    public void set" ++ accessorName field.1 ++ "(" ++ field.2 ++ " " ++ field.1 ++ ") \x7b this."
     ++ field.1 ++ " = " ++ field.1 ++ "; \x7d"]

def identityAccessorLines : List String :=
  ["",
   "    public Long getId() \x7b return id; \x7d",
   "    public void setId(Long id) \x7b this.id = id; \x7d"]

-- The private fields and their accessors, the identity first.
def memberLines (spec : FeatureModule) : List String :=
  "    private Long id;" :: spec.fields.map fieldLine ++ identityAccessorLines
    ++ spec.fields.flatMap accessorLines

def packageLine (spec : FeatureModule) : String := "package " ++ spec.featurePackage ++ ";"

def entityLines (spec : FeatureModule) : List String :=
  [spec.packageLine,
   "",
   "import jakarta.persistence.*;",
   "",
   "@Entity",
   "@Table(name = \"" ++ spec.tableName ++ "\")",
   "public class " ++ spec.entity ++ "Entity \x7b",
   "",
   "    @Id",
   "    @GeneratedValue(strategy = GenerationType.IDENTITY)"]
  ++ spec.memberLines ++ ["\x7d"]

def dtoLines (spec : FeatureModule) : List String :=
  [spec.packageLine,
   "",
   "public class " ++ spec.entity ++ "Dto \x7b",
   ""]
  ++ spec.memberLines ++ ["\x7d"]

def mapperLines (spec : FeatureModule) : List String :=
  [spec.packageLine,
   "",
   "import org.mapstruct.Mapper;",
   "import org.mapstruct.ReportingPolicy;",
   "",
   "@Mapper(componentModel = \"spring\", unmappedTargetPolicy = ReportingPolicy.IGNORE)",
   "public interface " ++ spec.entity ++ "Mapper \x7b",
   "",
   "    " ++ spec.entity ++ "Dto toDto(" ++ spec.entity ++ "Entity entity);",
   "",
   "    " ++ spec.entity ++ "Entity toEntity(" ++ spec.entity ++ "Dto dto);",
   "\x7d"]

def repositoryLines (spec : FeatureModule) : List String :=
  [spec.packageLine,
   "",
   "import java.util.List;",
   "import java.util.Optional;",
   "",
   "import org.springframework.data.jpa.repository.JpaRepository;",
   "",
   "public interface " ++ spec.entity ++ "Repository extends JpaRepository<" ++ spec.entity
     ++ "Entity, Long> \x7b"]
  ++ spec.methods.map (fun method => "    " ++ method ++ ";") ++ ["\x7d"]

def serviceLines (spec : FeatureModule) : List String :=
  [spec.packageLine,
   "",
   "import org.slf4j.Logger;",
   "import org.slf4j.LoggerFactory;",
   "import org.springframework.stereotype.Service;",
   "import org.springframework.transaction.annotation.Transactional;",
   "",
   "import java.util.List;",
   "",
   "@Service",
   "@Transactional",
   "public class " ++ spec.entity ++ "Service \x7b",
   "",
   "    private static final Logger log = LoggerFactory.getLogger(" ++ spec.entity ++ "Service.class);",
   "    private final " ++ spec.entity ++ "Repository repository;",
   "    private final " ++ spec.entity ++ "Mapper mapper;",
   "",
   "    public " ++ spec.entity ++ "Service(" ++ spec.entity ++ "Repository repository, " ++ spec.entity
     ++ "Mapper mapper) \x7b",
   "        this.repository = repository;",
   "        this.mapper = mapper;",
   "    \x7d",
   "",
   "    @Transactional(readOnly = true)",
   "    public List<" ++ spec.entity ++ "Dto> findAll() \x7b",
   "        log.info(\"Entering " ++ spec.entity ++ "Service.findAll\");",
   "        List<" ++ spec.entity
     ++ "Dto> result = repository.findAll().stream().map(mapper::toDto).toList();",
   "        log.info(\"Exiting " ++ spec.entity ++ "Service.findAll size=\x7b\x7d\", result.size());",
   "        return result;",
   "    \x7d",
   "\x7d"]

def controllerLines (spec : FeatureModule) : List String :=
  [spec.packageLine,
   "",
   "import org.springframework.web.bind.annotation.GetMapping;",
   "import org.springframework.web.bind.annotation.RequestMapping;",
   "import org.springframework.web.bind.annotation.RestController;",
   "",
   "import java.util.List;",
   "",
   "@RestController",
   "@RequestMapping(\"/api/" ++ spec.feature ++ "s\")",
   "public class " ++ spec.entity ++ "Controller \x7b",
   "",
   "    private final " ++ spec.entity ++ "Service service;",
   "",
   "    public " ++ spec.entity ++ "Controller(" ++ spec.entity ++ "Service service) \x7b",
   "        this.service = service;",
   "    \x7d",
   "",
   "    @GetMapping",
   "    public List<" ++ spec.entity ++ "Dto> findAll() \x7b",
   "        return service.findAll();",
   "    \x7d",
   "\x7d"]

-- Everything that a line takes from the module stands inside that line, so the lines of a file are
-- those of its pattern.
-- A test is no part of a feature module.
def lines (spec : FeatureModule) : ArtifactKind → List String
  | .entity => spec.entityLines
  | .dto => spec.dtoLines
  | .mapper => spec.mapperLines
  | .repository => spec.repositoryLines
  | .service => spec.serviceLines
  | .controller => spec.controllerLines
  | .test => []

def artifact (spec : FeatureModule) (kind : ArtifactKind) : Artifact :=
  { kind
    path := Path.join ⟨spec.feature⟩ ⟨kind.fileName spec.entity⟩
    content := sourceText (spec.lines kind) }

def artifacts (spec : FeatureModule) : List Artifact := ArtifactKind.ofModule.map spec.artifact

end SpringSkeleton.FeatureModule
