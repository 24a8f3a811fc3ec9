import SpringSkeleton.Artifact
import SpringSkeleton.Name.Basic

namespace SpringSkeleton.Project

def buildLines : List String :=
  ["plugins \x7b",
   "    id 'java'",
   "    id 'org.springframework.boot' version '3.2.3'",
   "    id 'io.spring.dependency-management' version '1.1.4'",
   "\x7d",
   "",
   "group = 'com.example'",
   "version = '0.0.1-SNAPSHOT'",
   "",
   "java \x7b",
   "    sourceCompatibility = '17'",
   "\x7d",
   "",
   "configurations \x7b",
   "    compileOnly \x7b",
   "        extendsFrom annotationProcessor",
   "    \x7d",
   "\x7d",
   "",
   "repositories \x7b",
   "    mavenCentral()",
   "\x7d",
   "",
   "ext \x7b",
   "    set('mapstructVersion', '1.5.5.Final')",
   "\x7d",
   "",
   "dependencies \x7b",
   "    implementation 'org.springframework.boot:spring-boot-starter-data-jpa'",
   "    implementation 'org.springframework.boot:spring-boot-starter-web'",
   "    implementation 'org.springdoc:springdoc-openapi-starter-webmvc-ui:2.3.0'",
   "    implementation \"org.mapstruct:mapstruct:$\x7bmapstructVersion\x7d\"",
   "",
   "    runtimeOnly 'com.oracle.database.jdbc:ojdbc11'",
   "",
   "    compileOnly 'org.projectlombok:lombok'",
   "",
   "    annotationProcessor 'org.projectlombok:lombok'",
   "    annotationProcessor \"org.mapstruct:mapstruct-processor:$\x7bmapstructVersion\x7d\"",
   "",
   "    testImplementation 'org.springframework.boot:spring-boot-starter-test'",
   "\x7d",
   "",
   "tasks.named('test') \x7b",
   "    useJUnitPlatform()",
   "\x7d"]

def resourceLines : List String :=
  ["spring:",
   "  datasource:",
   "    url: jdbc:oracle:thin:@localhost:1521/helowin",
   "    username: system",
   "    password: oracle-password",
   "    driver-class-name: oracle.jdbc.OracleDriver",
   "  jpa:",
   "    hibernate:",
   "      ddl-auto: update",
   "    properties:",
   "      hibernate:",
   "        dialect: org.hibernate.dialect.OracleDialect"]

def settingsLines (projectName : String) : List String :=
  ["rootProject.name = '" ++ projectName ++ "'"]

def applicationLines (package : String) : List String :=
  ["package " ++ package ++ ";",
   "",
   "import org.springframework.boot.SpringApplication;",
   "import org.springframework.boot.autoconfigure.SpringBootApplication;",
   "",
   "@SpringBootApplication",
   "public class Application \x7b",
   "",
   "    public static void main(String[] args) \x7b",
   "        SpringApplication.run(Application.class, args);",
   "    \x7d",
   "\x7d"]

-- A class to begin with, which does nothing yet.
def componentLines (package className : String) : List String :=
  ["package " ++ package ++ ";",
   "",
   "import org.springframework.stereotype.Component;",
   "",
   "@Component",
   "public class " ++ className ++ " \x7b",
   "\x7d"]

end SpringSkeleton.Project
