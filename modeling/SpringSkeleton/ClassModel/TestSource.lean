import SpringSkeleton.Artifact
import SpringSkeleton.ClassModel.Basic
import SpringSkeleton.Settings
import SpringSkeleton.Text.Case
import SpringSkeleton.Text.Pieces

namespace SpringSkeleton.ClassModel

structure TestBlock where
  name : String
  method : String
  deriving DecidableEq

-- Repeats of a method name are numbered from two on, so that every block keeps a name of its own.
def blockName (method : String) (count : Nat) : String :=
  method ++ "_shouldExecuteHappyPath" ++ (if count = 1 then "" else toString count)

def blocksAfter (seen : List String) : List String → List TestBlock
  | [] => []
  | method :: rest =>
    ⟨blockName method (seen.count method + 1), method⟩ :: blocksAfter (method :: seen) rest

def testBlocks (model : ClassModel) : List TestBlock :=
  blocksAfter [] (model.publicMethods.map (·.name))

def mockLines (field : FieldModel) : List String :=
  ["", "    @Mock", "    private " ++ field.declaredType ++ " " ++ field.name ++ ";"]

def blockLines (block : TestBlock) : List String :=
  ["",
   "    @Test",
   "    void " ++ block.name ++ "() \x7b",
   "        // arrange",
   "",
   "        // act",
   "        // var result = subject." ++ block.method ++ "();",
   "",
   "        // assert (scaffold: replace with real expectations)",
   "        assertThat(true).isTrue();",
   "    \x7d"]

def unitTestLines (model : ClassModel) : List String :=
  ["package " ++ model.package ++ ";",
   "",
   "import org.junit.jupiter.api.Test;",
   "import org.junit.jupiter.api.extension.ExtendWith;",
   "import org.mockito.InjectMocks;",
   "import org.mockito.Mock;",
   "import org.mockito.junit.jupiter.MockitoExtension;",
   "",
   "import static org.assertj.core.api.Assertions.assertThat;",
   "",
   "@ExtendWith(MockitoExtension.class)",
   "class " ++ model.name ++ "Test \x7b"]
  ++ model.privateFields.flatMap mockLines
  ++ ["", "    @InjectMocks", "    private " ++ model.name ++ " subject;"]
  ++ model.testBlocks.flatMap blockLines ++ ["\x7d"]

-- `CustomerController` serves `Customer`; any other class serves what it is called.
def servedName (className : String) : String :=
  (Text.withoutEnding? "Controller" className).getD className

def endpoint (className : String) : String := "/api/" ++ Text.lowercase (servedName className) ++ "s"

def webTestLines (model : ClassModel) : List String :=
  ["package " ++ model.package ++ ";",
   "",
   "import org.junit.jupiter.api.Test;",
   "import org.springframework.beans.factory.annotation.Autowired;",
   "import org.springframework.boot.test.autoconfigure.web.servlet.WebMvcTest;",
   "import org.springframework.boot.test.mock.mockito.MockBean;",
   "import org.springframework.test.web.servlet.MockMvc;",
   "",
   "import static org.springframework.test.web.servlet.request.MockMvcRequestBuilders.get;",
   "import static org.springframework.test.web.servlet.result.MockMvcResultMatchers.status;",
   "",
   "@WebMvcTest(" ++ model.name ++ ".class)",
   "class " ++ model.name ++ "Test \x7b",
   "",
   "    @Autowired",
   "    private MockMvc mockMvc;",
   "",
   "    @MockBean",
   "    private " ++ servedName model.name ++ "Service service;",
   "",
   "    @Test",
   "    void findAll_shouldReturnOk() throws Exception \x7b",
   "        mockMvc.perform(get(\"" ++ endpoint model.name ++ "\"))",
   "                .andExpect(status().isOk());",
   "    \x7d",
   "\x7d"]

def testLines (model : ClassModel) : Role → List String
  | .plain => model.unitTestLines
  | .httpFacing => model.webTestLines

def testArtifact (model : ClassModel) (role : Role) (settings : Settings) : Artifact :=
  { kind := .test
    path := Path.join ⟨settings.generatedTestsDirectory⟩ ⟨ArtifactKind.test.fileName model.name⟩
    content := sourceText (model.testLines role) }

end SpringSkeleton.ClassModel
